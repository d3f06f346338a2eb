import ServiceDispatch.Form.Disk
import ServiceDispatch.UrlEncoded

/-!
# Form parameters

A form gives each field a list of values in order of arrival. A value is a text or
an upload that has been stored.
-/

namespace ServiceDispatch

/-- What is known of an upload without its content. -/
structure FileInfo where
  fileName : String
  contentType : String
  size : Nat
  deriving DecidableEq, Repr

/-- An upload stored for the time of the request. -/
structure FormFile where
  fileName : String
  contentType : String
  path : FilePath
  size : Nat
  deriving DecidableEq, Repr

def FormFile.info (f : FormFile) : FileInfo := ⟨f.fileName, f.contentType, f.size⟩

inductive FormValue where
  | text (s : String)
  | file (f : FormFile)
  deriving DecidableEq, Repr

namespace FormValue

def text? : FormValue → Option String
  | .text s => some s
  | .file _ => none

def file? : FormValue → Option FormFile
  | .file f => some f
  | .text _ => none

def isFile (v : FormValue) : Bool := v.file?.isSome

end FormValue

/-- The values of each field, in order of arrival. -/
abbrev FormParams := Table (List FormValue)

namespace FormParams

/-- Adds a value to a field. -/
def push (name : String) (value : FormValue) (p : FormParams) : FormParams :=
  Table.alter name (fun vs => vs.getD [] ++ [value]) p

/-- The values of a field, none if the form lacks it. -/
def get (name : String) (p : FormParams) : List FormValue := (Table.get? name p).getD []

/-- The first text among the values of a field. -/
def firstText? (name : String) (p : FormParams) : Option String :=
  (get name p).findSome? FormValue.text?

/-- The texts among the values of a field. -/
def texts (name : String) (p : FormParams) : List String :=
  (get name p).filterMap FormValue.text?

/-- The uploads among the values of a field. -/
def files (name : String) (p : FormParams) : List FormFile :=
  (get name p).filterMap FormValue.file?

def contains (name : String) (p : FormParams) : Bool := (Table.get? name p).isSome

/-- The parameters of a list of pairs. -/
def ofPairs (pairs : List (String × String)) : FormParams :=
  pairs.foldl (fun p e => push e.1 (.text e.2) p) []

/-- The parameters of a url-encoded body. -/
def ofUrlEncoded (body : Bytes) : FormParams := ofPairs (UrlEncoded.parse body)

end FormParams

end ServiceDispatch
