import ServiceDispatch.Media.Table
import ServiceDispatch.Number.Floating
import ServiceDispatch.Value.Schema

/-!
# Parameter converters

A `Converter` turns what a request holds for a parameter into a value of its target
type. There are three ways in: `convert` takes the raw texts, `convertFiles` the
uploads of a form field, and `convertBody` a body or form part together with the
media converter for it.
-/

namespace ServiceDispatch

/-- What is wrong with the raw value of a parameter. -/
inductive ConvertFault where
  | integer (e : IntegerError)
  | floating (e : FloatingError)
  | notBool
  | noChar
  | manyChars
  | utf8 (e : Utf8.Error)
  | schema (e : SchemaError)
  | media (e : MediaError)
  | disk (e : DiskError)
  | notFile
  | fileNotText

def ConvertFault.message : ConvertFault → String
  | .integer e => e.message
  | .floating e => e.message
  | .notBool => "provided string was not `true` or `false`"
  | .noChar => "cannot parse char from empty string"
  | .manyChars => "too many characters in string"
  | .utf8 e => e.message
  | .schema e => e.message
  | .media e => e.message
  | .disk e => e.message
  | .notFile => "value is not a file"
  | .fileNotText => "file part is not valid UTF-8"

/-- Why nothing is converted. -/
inductive ConvertFailure where
  /-- There is nothing to convert, and the target needs a value. -/
  | missing
  | invalid (fault : ConvertFault)

/-- Types that are read from one text. -/
inductive Scalar where
  | integer (t : IntegerType)
  | floating (t : FloatingType)
  | bool
  | char
  | text
  deriving DecidableEq, Repr

namespace Scalar

def type : Scalar → ValueType
  | integer t => .integer t
  | floating t => .floating t
  | bool => .bool
  | char => .char
  | text => .text

/-- What reads values of a type from one text, if such a text is enough. -/
def ofType? : ValueType → Option Scalar
  | .integer t => some (.integer t)
  | .floating t => some (.floating t)
  | .bool => some .bool
  | .char => some .char
  | .text => some .text
  | _ => none

theorem ofType?_type (k : Scalar) : ofType? k.type = some k := by cases k <;> rfl

/-- Reads a text as a value of the type. -/
def read : Scalar → String → Except ConvertFailure Value
  | integer t, s => match t.format.read s with
    | .ok n => .ok (.integer t n)
    | .error e => .error (.invalid (.integer e))
  | floating t, s => match t.format.read s with
    | .ok pattern => .ok (.floating t pattern)
    | .error e => .error (.invalid (.floating e))
  | bool, s =>
    if s = "true" then .ok (.bool true)
    else if s = "false" then .ok (.bool false)
    else .error (.invalid .notBool)
  | char, s => match s.toList with
    | [] => .error (.invalid .noChar)
    | [c] => .ok (.char c)
    | _ => .error (.invalid .manyChars)
  | text, s => .ok (.text s)

theorem type_of_read {k : Scalar} {s : String} {v : Value} (h : k.read s = .ok v) :
    v.type = k.type := by
  cases k <;> simp only [read] at h <;> repeat' split at h
  all_goals simp_all [Value.type, Scalar.type]
  all_goals subst h; rfl

end Scalar

/-- How a parameter is converted. -/
inductive Converter where
  /-- A value that must be there. -/
  | scalar (k : Scalar)
  /-- A value that may be missing. -/
  | optional (k : Scalar)
  /-- Every value. -/
  | list (k : Scalar)
  /-- A typed value read from a tree. -/
  | bean (s : Schema)
  /-- The bytes of an upload, a text or a body. -/
  | byteStream
  | fileInfo
  | formFile
  | formFiles

namespace Converter

/-- The type of what a converter produces. -/
def target : Converter → ValueType
  | scalar k => k.type
  | optional k => .optional k.type
  | list k => .list k.type
  | bean s => s.type
  | byteStream => .stream
  | fileInfo => .fileInfo
  | formFile => .formFile
  | formFiles => .list .formFile

/-- Reads a tree by a schema. -/
def ofTree (s : Schema) (j : Json) : Except ConvertFailure Value :=
  match s.read j with
  | .ok v => .ok v
  | .error e => .error (.invalid (.schema e))

/-- The tree that a raw text stands for: JSON if it is JSON, and itself otherwise. -/
def treeOf (raw : String) : Json :=
  match Json.read (Utf8.encode raw) with
  | .ok j => j
  | .error _ => .text raw

/-- What converters of uploads say of texts. -/
def onlyFiles : Option (List String) → Except ConvertFailure Value
  | none => .error .missing
  | some _ => .error (.invalid .notFile)

/-- Converts raw texts; `none` when the request carries none. -/
def convert (c : Converter) (raw : Option (List String)) : Except ConvertFailure Value :=
  match c with
  | scalar k => match raw.bind List.head? with
    | some s => k.read s
    | none => .error .missing
  | optional k => match raw.bind List.head? with
    | some s => (k.read s).map fun v => .optional k.type (some v)
    | none => .ok (.optional k.type none)
  | list k => ((raw.getD []).mapM k.read).map (.list k.type)
  | bean s => match raw.bind List.head? with
    | some text => ofTree s (treeOf text)
    | none => .error .missing
  | byteStream => match raw.bind List.head? with
    | some s => .ok (.stream (Utf8.encode s))
    | none => .error .missing
  | fileInfo => onlyFiles raw
  | formFile => onlyFiles raw
  | formFiles => onlyFiles raw

/-- A stream over the first of some uploads. -/
def openFirst? (d : Disk) (files : List FormFile) : Option (Except ConvertFailure Value) :=
  files.head?.map fun f => match d.read? f.path with
    | some content => .ok (.stream content)
    | none => .error (.invalid (.disk .notFound))

/-- Something made of the first of some uploads. -/
def ofFirst (make : FormFile → Value) (files : List FormFile) : Except ConvertFailure Value :=
  match files.head? with
  | some f => .ok (make f)
  | none => .error .missing

/-- Converts uploads; `none` when the target takes none. -/
def convertFiles (c : Converter) (d : Disk) (files : List FormFile) :
    Option (Except ConvertFailure Value) :=
  match c with
  | byteStream => openFirst? d files
  | fileInfo => some (ofFirst (fun f => .fileInfo f.info) files)
  | formFile => some (ofFirst .formFile files)
  | formFiles => some (.ok (.list .formFile (files.map .formFile)))
  | _ => none

/-- Converts a body with the media converter chosen for it. -/
def convertBody (c : Converter) (media : MediaConverter) (body : Bytes) :
    Except ConvertFailure Value :=
  match c with
  | bean s => match media.decode body with
    | .ok j => ofTree s j
    | .error e => .error (.invalid (.media e))
  | byteStream => .ok (.stream body)
  | _ => match Utf8.decode body with
    | .ok s => c.convert (some [s])
    | .error e => .error (.invalid (.utf8 e))

end Converter

end ServiceDispatch
