import ServiceDispatch.Http.Header
import ServiceDispatch.Json.Printer
import ServiceDispatch.Media.Type

/-!
# Responses

A `Response` is a finished answer. A `Sink` is an answer in the making, which the
handler, the filters and the interceptors of one call write to: it knows whether a
body has been set. A `ChunkStream` collects the chunks of an answer that is written
piece by piece.
-/

namespace ServiceDispatch

structure Response where
  status : Nat
  headers : Headers := []
  body : Bytes := []
  deriving DecidableEq, Repr

namespace Response

def contentTypeName : String := "content-type"

/-- Makes a value the only one of its header. -/
def withHeader (r : Response) (name : String) (value : Bytes) : Response :=
  { r with headers := r.headers.insert name value }

def withBody (r : Response) (body : Bytes) : Response := { r with body }

/-- A text body and its content type. -/
def withText (r : Response) (s : String) : Response :=
  (r.withHeader contentTypeName (Utf8.encode "text/plain; charset=utf-8")).withBody (Utf8.encode s)

/-- A value tree as the body, and its content type. -/
def withJson (r : Response) (j : Json) : Response :=
  (r.withHeader contentTypeName (Utf8.encode MediaType.json)).withBody (Utf8.encode j.render)

/-- A status with an object that repeats it beside a message. -/
def jsonError (status : Nat) (message : String) : Response :=
  let body := Json.ofMembers [("status", .ofNat status), ("error", .text message)]
  (Response.mk status [] []).withJson body

/-- The first value of a header, if it is text. -/
def header? (r : Response) (name : String) : Option String := r.headers.text? name

/-- The body as text, if it is UTF-8. -/
def bodyText? (r : Response) : Option String := Utf8.decode? r.body

end Response

/-- The answer of a call while it is being written. -/
structure Sink where
  status : Nat := 200
  headers : Headers := []
  body : Option Bytes := none
  deriving DecidableEq, Repr

namespace Sink

def setStatus (s : Sink) (status : Nat) : Sink := { s with status }

/-- Makes a value the only one of its header. -/
def insertHeader (s : Sink) (name : String) (value : Bytes) : Sink :=
  { s with headers := s.headers.insert name value }

def setBody (s : Sink) (body : Bytes) : Sink := { s with body := some body }

/-- The answer as written so far. -/
def toResponse (s : Sink) : Response := ⟨s.status, s.headers, s.body.getD []⟩

/-- Takes over status and body of a response, and inserts each of its header
values in turn. -/
def apply (s : Sink) (r : Response) : Sink where
  status := r.status
  headers := r.headers.toList.foldl (fun h f => h.insert f.1 f.2) s.headers
  body := some r.body

end Sink

/-- Chunks of an answer, in the order in which they were accepted. -/
structure ChunkStream where
  contentType : Option String := none
  chunks : List Bytes := []
  finished : Bool := false
  deriving DecidableEq, Repr

namespace ChunkStream

/-- What a refused chunk is told. -/
def closedMessage : String := "stream already finished"

def setContentType (s : ChunkStream) (contentType : String) : ChunkStream :=
  { s with contentType := some contentType }

/-- Adds a chunk, unless the stream is finished. -/
def send? (s : ChunkStream) (chunk : Bytes) : Option ChunkStream :=
  if s.finished then none else some { s with chunks := s.chunks ++ [chunk] }

def finish (s : ChunkStream) : ChunkStream := { s with finished := true }

/-- Whether something was written or the stream was finished. -/
def isUsed (s : ChunkStream) : Bool := s.finished || !s.chunks.isEmpty

/-- The buffered chunks joined. -/
def body (s : ChunkStream) : Bytes := s.chunks.flatten

/-- Takes the buffered chunks out as one body. -/
def takeBody (s : ChunkStream) : Bytes × ChunkStream := (s.body, { s with chunks := [] })

end ChunkStream

end ServiceDispatch
