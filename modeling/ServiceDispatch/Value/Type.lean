import ServiceDispatch.Number.Binary
import ServiceDispatch.Number.Integer
import ServiceDispatch.Text.Cut

/-!
# Types of bound values

A `ValueType` says what a slot of an argument list holds, what a converter produces
and what a provider is registered for. Two types are the same exactly if they are
equal; they are listed by their full names, which are also what diagnostics print.
-/

namespace ServiceDispatch

/-- Integers by width and sign. -/
inductive IntegerType where
  | i8 | i16 | i32 | i64 | i128 | isize
  | u8 | u16 | u32 | u64 | u128 | usize
  deriving DecidableEq, Repr

namespace IntegerType

def name : IntegerType → String
  | i8 => "i8" | i16 => "i16" | i32 => "i32" | i64 => "i64" | i128 => "i128"
  | isize => "isize"
  | u8 => "u8" | u16 => "u16" | u32 => "u32" | u64 => "u64" | u128 => "u128"
  | usize => "usize"

/-- The type with a name. -/
def ofName? (s : String) : Option IntegerType :=
  [i8, i16, i32, i64, i128, isize, u8, u16, u32, u64, u128, usize].find? fun t => t.name == s

theorem ofName?_name (t : IntegerType) : ofName? t.name = some t := by cases t <;> rfl

/-- The numbers of the type; a pointer has 64 bits. -/
def format : IntegerType → IntegerFormat
  | i8 => ⟨true, 8⟩ | i16 => ⟨true, 16⟩ | i32 => ⟨true, 32⟩ | i64 => ⟨true, 64⟩
  | i128 => ⟨true, 128⟩ | isize => ⟨true, 64⟩
  | u8 => ⟨false, 8⟩ | u16 => ⟨false, 16⟩ | u32 => ⟨false, 32⟩ | u64 => ⟨false, 64⟩
  | u128 => ⟨false, 128⟩ | usize => ⟨false, 64⟩

end IntegerType

/-- Floating-point numbers by width. -/
inductive FloatingType where
  | f32 | f64
  deriving DecidableEq, Repr

namespace FloatingType

def name : FloatingType → String
  | f32 => "f32"
  | f64 => "f64"

def format : FloatingType → BinaryFormat
  | f32 => .single
  | f64 => .double

end FloatingType

/-- The type of a value. -/
inductive ValueType where
  | integer (t : IntegerType)
  | floating (t : FloatingType)
  | bool
  | char
  | text
  | unit
  /-- A value tree. -/
  | tree
  /-- A readable stream of bytes. -/
  | stream
  | request
  | sink
  | chunkStream
  | multipart
  | formParams
  | fileInfo
  | formFile
  | optional (t : ValueType)
  | list (t : ValueType)
  /-- A map from texts. -/
  | map (t : ValueType)
  /-- A type that the application declares under a full name. -/
  | declared (fullName : String)
  deriving DecidableEq, Repr

namespace ValueType

/-- The full name of the type of texts. -/
def textName : String := "alloc::string::String"

/-- The full name. -/
def name : ValueType → String
  | integer t => t.name
  | floating t => t.name
  | bool => "bool"
  | char => "char"
  | text => textName
  | unit => "()"
  | tree => "serde_json::value::Value"
  | stream => "alloc::boxed::Box<dyn alloc::io::read::Read + core::marker::Send>"
  | request => "conduit_core::http::Request"
  | sink => "conduit_core::http::Responder"
  | chunkStream => "conduit_core::http::HttpStreamer"
  | multipart => "conduit_core::form::MultipartBody"
  | formParams => "conduit_core::form::FormParams"
  | fileInfo => "conduit_core::form::FileInfo"
  | formFile => "conduit_core::form::FormFile"
  | optional t => s!"core::option::Option<{t.name}>"
  | list t => s!"alloc::vec::Vec<{t.name}>"
  | map t => s!"alloc::collections::btree::map::BTreeMap<{textName}, {t.name}>"
  | declared fullName => fullName

/-- The last segment of the name, without type arguments. -/
def shortName (t : ValueType) : String :=
  let base := t.name.toList.takeWhile (· != '<')
  String.ofList ((Text.pieces [':', ':'] base).getLast?.getD base)

/-- How a type is shown as a key. -/
def describe (t : ValueType) : String := s!"TypeKey({t.name})"

/-- Types are listed by their names. -/
def before (s t : ValueType) : Bool := s.name < t.name

/-- Adds a type to a list in the order of names that holds each type once. -/
def insertSorted (t : ValueType) : List ValueType → List ValueType
  | [] => [t]
  | u :: us =>
    if t = u then u :: us
    else if t.before u then t :: u :: us
    else u :: insertSorted t us

end ValueType

end ServiceDispatch
