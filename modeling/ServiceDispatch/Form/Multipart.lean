import ServiceDispatch.Form.Error
import ServiceDispatch.Form.HeaderParams
import ServiceDispatch.Http.Request

/-!
# Multipart bodies

A multipart body is a sequence of parts between boundaries. `PartReader.next` reads
one part and moves behind the boundary that ends it; after the closing boundary or a
mistake it gives nothing more. `PartReader.results` is everything that repeated
reading gives, and `Multipart.parse` the parts if no mistake is among it.

The opening boundary is the first place where two dashes and the boundary occur; each
later one is the first place behind the part's headers where a line break, two dashes
and the boundary occur.
-/

namespace ServiceDispatch

/-- One part of a multipart body. -/
structure Part where
  name : String
  fileName : Option String
  /-- The essence of the part's content type, plain text when it declares none. -/
  contentType : String
  headers : List (String × String)
  data : Bytes
  deriving DecidableEq, Repr

namespace Part

/-- Whether the part is an upload. -/
def isFile (p : Part) : Bool := p.fileName.isSome || p.contentType == MediaType.octetStream

/-- The first header with the given name. -/
def header? (p : Part) (name : String) : Option String :=
  (p.headers.find? fun h => Text.sameIgnoringCase h.1 name).map Prod.snd

end Part

namespace Multipart

def lineBreak : Bytes := [13, 10]

def dashes : Bytes := [45, 45]

/-- Where parts are kept apart: a line break, two dashes and the boundary. -/
def delimiter (boundary : Bytes) : Bytes := lineBreak ++ (dashes ++ boundary)

/-- A header line as name and value, each without surrounding blanks. -/
def headerLine (line : List Char) : Except FormError (String × String) :=
  match Text.cut? [':'] line with
  | some (name, value) =>
    .ok (String.ofList (Text.trimChars name), String.ofList (Text.trimChars value))
  | none => .error (.malformed (.invalidHeader (String.ofList line)))

/-- The headers of a part. -/
def headers (block : Bytes) : Except FormError (List (String × String)) :=
  match Utf8.decode? block with
  | none => .error (.malformed .headersNotText)
  | some text =>
    ((Text.pieces ['\r', '\n'] text.toList).filter fun line => !line.isEmpty).mapM headerLine

/-- The last value under a key. -/
def lastValue? (key : String) (entries : List (String × String)) : Option String :=
  (entries.reverse.find? fun e => Text.sameIgnoringCase e.1 key).map Prod.snd

/-- The parameters of all content dispositions, in order. -/
def dispositionParams (hs : List (String × String)) : List (String × String) :=
  (hs.filter fun h => Text.sameIgnoringCase h.1 "content-disposition").flatMap
    fun h => HeaderParams.read h.2

/-- The essence of the last content type, plain text if there is none. -/
def contentTypeOf (hs : List (String × String)) : String :=
  match lastValue? "content-type" hs with
  | some c => MediaType.essence c
  | none => MediaType.plainText

/-- The part with the given headers and data. -/
def part (hs : List (String × String)) (data : Bytes) : Except FormError Part :=
  let params := dispositionParams hs
  match lastValue? "name" params with
  | none => .error (.malformed .noFieldName)
  | some name => .ok
      { name, fileName := lastValue? "filename" params, contentType := contentTypeOf hs,
        headers := hs, data }

/-- What follows the opening boundary. -/
def afterOpening (boundary body : Bytes) : Except FormError Bytes :=
  match Text.cut? (dashes ++ boundary) body with
  | some (_, rest) => .ok rest
  | none => .error (.malformed .noOpeningBoundary)

/-- What follows the line that a boundary stands on. -/
def afterBoundaryLine (rest : Bytes) : Except FormError Bytes :=
  match Text.cut? lineBreak rest with
  | none => .error (.malformed .boundaryLineOpen)
  | some (padding, more) =>
    if padding.all fun b => b == 32 || b == 9 then .ok more
    else .error (.malformed .dataAfterBoundary)

/-- The header block of a part, and what follows the empty line behind it. -/
def splitHeaders (rest : Bytes) : Except FormError (Bytes × Bytes) :=
  if lineBreak.isPrefixOf rest then .ok ([], rest.drop lineBreak.length)
  else match Text.cut? (lineBreak ++ lineBreak) rest with
    | some p => .ok p
    | none => .error (.malformed .headersOpen)

/-- The data of a part, and what follows the boundary that ends it. -/
def splitData (boundary content : Bytes) : Except FormError (Bytes × Bytes) :=
  match Text.cut? (delimiter boundary) content with
  | some p => .ok p
  | none => .error (.malformed .partOpen)

/-- Reads the part behind a boundary, and gives what follows it. There is none if that
boundary closes the body; `parsed` parts have been read and `limit` are allowed. -/
def nextPart (boundary : Bytes) (limit parsed : Nat) (rest : Bytes) :
    Except FormError (Option (Part × Bytes)) :=
  if dashes.isPrefixOf rest then .ok none
  else do
    let rest ← afterBoundaryLine rest
    if limit ≤ parsed then .error (.tooManyParts limit)
    else
      let (block, content) ← splitHeaders rest
      let hs ← headers block
      let (data, rest) ← splitData boundary content
      let p ← part hs data
      .ok (some (p, rest))

end Multipart

/-- How far a body has been read. -/
inductive PartPosition where
  | start (body : Bytes)
  /-- Behind a boundary. -/
  | after (rest : Bytes)
  | finished
  deriving DecidableEq, Repr

/-- Reads the parts of a body one by one. -/
structure PartReader where
  boundary : Bytes
  limit : Nat
  position : PartPosition
  parsed : Nat := 0
  deriving DecidableEq, Repr

namespace PartReader

/-- What has not been read yet, the opening boundary passed. -/
def rest (r : PartReader) : Except FormError Bytes :=
  match r.position with
  | .start body => Multipart.afterOpening r.boundary body
  | .after rest => .ok rest
  | .finished => .ok []

/-- The number of bytes ahead, one more if anything may still be read. -/
def ahead (r : PartReader) : Nat :=
  match r.position with
  | .start body => body.length + 1
  | .after rest => rest.length + 1
  | .finished => 0

/-- The reader that gives nothing more. -/
def close (r : PartReader) : PartReader := { r with position := .finished }

/-- The next part or mistake, `none` at the end. -/
def next (r : PartReader) : Option (Except FormError Part) × PartReader :=
  match r.position with
  | .finished => (none, r)
  | _ =>
    match r.rest.bind (Multipart.nextPart r.boundary r.limit r.parsed) with
    | .ok (some (p, rest)) =>
      (some (.ok p), { r with position := .after rest, parsed := r.parsed + 1 })
    | .ok none => (none, r.close)
    | .error e => (some (.error e), r.close)

/-- All that repeated reading gives up to the end. -/
def results (r : PartReader) : List (Except FormError Part) :=
  match r.next with
  | (none, _) => []
  | (some a, r') => if r'.ahead < r.ahead then a :: results r' else [a]
termination_by r.ahead

end PartReader

/-- A multipart body with its boundary and the number of parts that it may have. -/
structure MultipartForm where
  boundary : String
  limit : Nat
  body : Bytes
  deriving DecidableEq, Repr

namespace MultipartForm

/-- The number of parts allowed when nothing else is said. -/
def standardLimit : Nat := 1000

/-- The boundary that a content type declares. -/
def boundaryOf (contentType : String) : Except FormError String :=
  match (HeaderParams.read contentType).find? fun p => Text.sameIgnoringCase p.1 "boundary" with
  | some (_, boundary) => if boundary.isEmpty then .error .missingBoundary else .ok boundary
  | none => .error .missingBoundary

/-- A reader at the beginning of the body. -/
def reader (f : MultipartForm) : PartReader where
  boundary := Utf8.encode f.boundary
  limit := f.limit
  position := .start f.body

/-- Parts and at most one mistake, which is the last. -/
def results (f : MultipartForm) : List (Except FormError Part) := f.reader.results

/-- All parts, or the mistake. -/
def parse (f : MultipartForm) : Except FormError (List Part) := f.results.mapM id

/-- The form in a request of the multipart media type. -/
def ofRequest (r : Request) (limit : Nat) : Except FormError MultipartForm :=
  let contentType := r.contentType?.getD ""
  if MediaType.essence contentType ≠ MediaType.multipartForm then
    .error (.malformed (.notMultipart contentType))
  else (boundaryOf contentType).map fun boundary => { boundary, limit, body := r.body }

end MultipartForm

end ServiceDispatch
