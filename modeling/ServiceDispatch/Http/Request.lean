import ServiceDispatch.Http.Header
import ServiceDispatch.Http.Target
import ServiceDispatch.Media.Type

/-!
# Requests

A request as the transport hands it over: method, target, version and headers, and
the body as the sequence of buffers it arrived in. Everything that reads the body
reads `Request.body`, the buffers joined, so the way the body was cut into buffers
is seen only by whoever asks for the buffers.
-/

namespace ServiceDispatch

/-- A version of the protocol. -/
inductive HttpVersion where
  | v0_9 | v1_0 | v1_1 | v2 | v3
  deriving DecidableEq, Repr

def HttpVersion.name : HttpVersion → String
  | .v0_9 => "HTTP/0.9"
  | .v1_0 => "HTTP/1.0"
  | .v1_1 => "HTTP/1.1"
  | .v2 => "HTTP/2.0"
  | .v3 => "HTTP/3.0"

/-- Why a request cannot be put together. -/
inductive RequestError where
  | invalidMethod
  | invalidTarget (e : TargetError)
  | invalidHeaderName
  | invalidHeaderValue
  deriving DecidableEq, Repr

def RequestError.message : RequestError → String
  | .invalidMethod => "invalid HTTP method"
  | .invalidTarget e => e.message
  | .invalidHeaderName => "invalid HTTP header name"
  | .invalidHeaderValue => "failed to parse header value"

structure Request where
  method : String
  uri : String
  version : HttpVersion := .v1_1
  headers : Headers := []
  buffers : List Bytes := []
  deriving DecidableEq, Repr

namespace Request

/-- A request without headers and body, if the method is a token. -/
def start (method uri : String) : Except RequestError Request :=
  if isToken method then .ok { method, uri } else .error .invalidMethod

/-- Appends a header field. -/
def withHeader (r : Request) (name : String) (value : Bytes) : Except RequestError Request :=
  if (Header.name? name).isNone then .error .invalidHeaderName
  else if Header.isValue value then .ok { r with headers := r.headers.append name value }
  else .error .invalidHeaderValue

/-- Appends header fields up to the first that is invalid. -/
def withHeaders (r : Request) (fields : List (String × Bytes)) : Except RequestError Request :=
  fields.foldlM (fun r f => r.withHeader f.1 f.2) r

/-- A request as a transport hands it over, with its target parsed and its body in one
piece. An empty body is no buffer at all. -/
def receive (method target : String) (version : HttpVersion) (fields : List (String × Bytes))
    (body : Bytes) : Except RequestError Request := do
  let r ← start method ""
  let target ← (Target.read target).mapError .invalidTarget
  let r ← r.withHeaders fields
  return { r with uri := target.render, version, buffers := if body.isEmpty then [] else [body] }

/-- The target in front of the first question mark. -/
def path (r : Request) : String :=
  match Text.cutAt? '?' r.uri with
  | some (p, _) => p
  | none => r.uri

/-- The target behind the first question mark. -/
def query? (r : Request) : Option String := (Text.cutAt? '?' r.uri).map Prod.snd

/-- The first value of a header, if it is text. -/
def header? (r : Request) (name : String) : Option String := r.headers.text? name

def cookieHeader? (r : Request) : Option String := r.header? "cookie"

def contentType? (r : Request) : Option String := r.header? "content-type"

/-- The media type of the body, without parameters. -/
def mediaType? (r : Request) : Option String := r.contentType?.map MediaType.essence

/-- The whole body. -/
def body (r : Request) : Bytes := r.buffers.flatten

/-- The size of the body, summed over the buffers. -/
def bodyLength (r : Request) : Nat := r.buffers.foldr (fun b n => b.length + n) 0

theorem bodyLength_eq (r : Request) : r.bodyLength = r.body.length := by
  rw [bodyLength, body]
  induction r.buffers with
  | nil => rfl
  | cons b bs ih => rw [List.foldr_cons, List.flatten_cons, List.length_append, ih]

/-- The first line of the request, by which failures name it. -/
def line (r : Request) : String := s!"{r.method} {r.uri} {r.version.name}"

end Request

end ServiceDispatch
