import ServiceDispatch.Form.Scratch

/-!
# Reading the form of a request

`FormData.extract` reads the body of a request as a form if its media type is one of
the two for forms. Parts that are uploads are stored on the way; a mistake leaves
those stored so far to the request's scratch files.
-/

namespace ServiceDispatch

/-- What a form may hold. -/
structure FormLimits where
  maxParts : Nat := MultipartForm.standardLimit
  maxBytes : Option Nat := none
  deriving DecidableEq, Repr

/-- The form of a request. -/
structure FormData where
  params : FormParams := []
  /-- The content type of the first part of each field. -/
  contentTypes : Table String := []
  deriving DecidableEq, Repr

namespace FormData

/-- Notes the content type of a field, unless one is known. -/
def noteContentType (p : Part) (f : FormData) : FormData :=
  { f with contentTypes := Table.alter p.name (fun c => c.getD p.contentType) f.contentTypes }

def push (name : String) (value : FormValue) (f : FormData) : FormData :=
  { f with params := f.params.push name value }

/-- The value of a part; an upload is stored. -/
def partValue (p : Part) (s : Scratch) (d : Disk) :
    Except FormError FormValue × Scratch × Disk :=
  if p.isFile then
    match s.store p.upload d with
    | (.ok file, s, d) => (.ok (.file file), s, d)
    | (.error e, s, d) => (.error (.disk e), s, d)
  else match Utf8.decode? p.data with
    | some text => (.ok (.text text), s, d)
    | none => (.error (.malformed (.fieldNotText p.name)), s, d)

/-- Takes parts over in order, up to the first mistake. -/
def collect (f : FormData) (s : Scratch) (d : Disk) :
    List (Except FormError Part) → Except FormError FormData × Scratch × Disk
  | [] => (.ok f, s, d)
  | .error e :: _ => (.error e, s, d)
  | .ok p :: rest => match partValue p s d with
    | (.error e, s, d) => (.error e, s, d)
    | (.ok value, s, d) => collect ((f.noteContentType p).push p.name value) s d rest

/-- Whether a body is longer than allowed. -/
def excess? (limits : FormLimits) (actual : Nat) : Option FormError :=
  match limits.maxBytes with
  | some limit => if limit < actual then some (.tooLarge limit actual) else none
  | none => none

/-- The form of a request; any other body gives an empty one. -/
def extract (r : Request) (limits : FormLimits) (s : Scratch) (d : Disk) :
    Except FormError FormData × Scratch × Disk :=
  match r.contentType? with
  | none => (.ok {}, s, d)
  | some contentType =>
    let mediaType := MediaType.essence contentType
    if mediaType ≠ MediaType.multipartForm ∧ mediaType ≠ MediaType.formUrlEncoded then
      (.ok {}, s, d)
    else match excess? limits r.bodyLength with
      | some e => (.error e, s, d)
      | none =>
        if mediaType = MediaType.formUrlEncoded then
          (.ok { params := FormParams.ofUrlEncoded r.body }, s, d)
        else match MultipartForm.boundaryOf contentType with
          | .error e => (.error e, s, d)
          | .ok boundary =>
            collect {} s d (MultipartForm.results ⟨boundary, limits.maxParts, r.body⟩)

end FormData

end ServiceDispatch
