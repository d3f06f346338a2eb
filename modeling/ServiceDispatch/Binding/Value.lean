import ServiceDispatch.Http.Cookie
import ServiceDispatch.Model
import ServiceDispatch.Registry.Basic

/-!
# Binding single values

What a keyed parameter and a parameter for the body are bound to. Nothing here changes
anything: the form of the request and the disk with its uploads are given. A value that
is not found is replaced by the default of the parameter, and where there is none the
converter decides what nothing is worth.
-/

namespace ServiceDispatch

namespace Request

/-- The parameters of the query. -/
def queryParams (r : Request) : FormParams :=
  FormParams.ofUrlEncoded (Utf8.encode (r.query?.getD ""))

/-- Whether the body is declared to be a form. -/
def isForm (r : Request) : Bool :=
  r.mediaType? == some MediaType.multipartForm || r.mediaType? == some MediaType.formUrlEncoded

end Request

namespace Parameter

/-- The failure of a parameter whose converter fails. -/
def cause (p : Parameter) : ConvertFailure → BindingCause
  | .missing => .missingParameter p.displayKey
  | .invalid fault => .conversion p.displayKey p.target.name fault.message

/-- What a converter gives, as the argument or the failure of the parameter. -/
def settle (p : Parameter) : Except ConvertFailure Value → Except BindingCause Arg
  | .ok v => .ok (some v)
  | .error e => .error (p.cause e)

/-- Converts raw texts. -/
def convertTexts (p : Parameter) (c : Converter) (raw : Option (List String)) :
    Except BindingCause Arg :=
  p.settle (c.convert raw)

/-- Converts at most one raw text. -/
def convertText (p : Parameter) (c : Converter) (raw : Option String) : Except BindingCause Arg :=
  p.convertTexts c (raw.map fun s => [s])

/-- Converts values that were found, or else the default. -/
def convertFound (p : Parameter) (c : Converter) (values : List String) :
    Except BindingCause Arg :=
  if values.isEmpty then p.convertText c p.default else p.convertTexts c (some values)

/-- Converts a body that is declared to be of some media type. -/
def convertAs (p : Parameter) (c : Converter) (t : ConverterTable) (mediaType : Option String)
    (body : Bytes) : Except BindingCause Arg :=
  p.settle (c.convertBody (t.select mediaType) body)

/-- A part of the path; it must be captured or have a default. -/
def bindPath (p : Parameter) (c : Converter) (captured : Option String) :
    Except BindingCause Arg :=
  match captured <|> p.default with
  | some value => p.convertText c (some value)
  | none => .error (.missingParameter p.displayKey)

/-- A header; an empty value is as good as none. -/
def bindHeader (p : Parameter) (c : Converter) (value : Option String) :
    Except BindingCause Arg :=
  p.convertText c ((value.filter fun s => !s.isEmpty) <|> p.default)

/-- A cookie. Without any cookie header the argument is absent, unless the default is
to be used then as well. -/
def bindCookie (p : Parameter) (c : Converter) (key : String) (useDefault : Bool)
    (header : Option String) : Except BindingCause Arg :=
  match header with
  | some header => p.convertText c (Cookie.find? key header <|> p.default)
  | none => match if useDefault then p.default else none with
    | some value => p.convertText c (some value)
    | none => .ok none

/-- The body, with the media converter for its content type. -/
def bindBody (p : Parameter) (c : Converter) (t : ConverterTable) (otherwise : String)
    (r : Request) : Except BindingCause Arg :=
  p.convertAs c t (some (r.contentType?.getD otherwise)) r.body

/-- The content of an upload. -/
def readUpload (d : Disk) (f : FormFile) : Except BindingCause Bytes :=
  match d.read? f.path with
  | some data => .ok data
  | none => .error (.form (.disk .notFound))

/-- The content of an upload as text. -/
def uploadText (p : Parameter) (d : Disk) (f : FormFile) : Except BindingCause String :=
  match readUpload d f with
  | .error e => .error e
  | .ok data => match Utf8.decode? data with
    | some s => .ok s
    | none => .error (p.cause (.invalid .fileNotText))

/-- A form field without uploads. With `asDocument` its first text is decoded by the
content type of its part, unless that is plain text or not known. -/
def bindTexts (p : Parameter) (c : Converter) (t : ConverterTable) (asDocument : Bool)
    (partType : Option String) (texts : List String) : Except BindingCause Arg :=
  let isDocument := asDocument && partType.isSome && partType != some MediaType.plainText
  match if isDocument then texts.head? else none with
  | some s => p.convertAs c t partType (Utf8.encode s)
  | none => p.convertFound c texts

/-- A form field with uploads, which a converter of uploads takes as they are. Other
converters get the first upload, decoded by the content type of its part, or with
`asDocument` false all texts and uploads as texts. -/
def bindUploads (p : Parameter) (c : Converter) (t : ConverterTable) (asDocument : Bool)
    (partType : Option String) (texts : List String) (first : FormFile) (rest : List FormFile)
    (d : Disk) : Except BindingCause Arg :=
  match c.convertFiles d (first :: rest) with
  | some result => p.settle result
  | none =>
    if asDocument then
      match readUpload d first with
      | .error e => .error e
      | .ok data => p.convertAs c t partType data
    else match (first :: rest).mapM (p.uploadText d) with
      | .error e => .error e
      | .ok uploads => p.convertFound c (texts ++ uploads)

/-- A form field. -/
def bindForm (p : Parameter) (c : Converter) (t : ConverterTable) (asDocument : Bool)
    (key : String) (form : FormData) (d : Disk) : Except BindingCause Arg :=
  let texts := FormParams.texts key form.params
  let partType := Table.get? key form.contentTypes
  match FormParams.files key form.params with
  | [] => p.bindTexts c t asDocument partType texts
  | first :: rest => p.bindUploads c t asDocument partType texts first rest d

end Parameter

end ServiceDispatch
