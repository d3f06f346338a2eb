import ServiceDispatch.Form.Multipart
import ServiceDispatch.Form.Params
import ServiceDispatch.Http.Response
import ServiceDispatch.Value.Type

/-!
# Bound values

A `Value` is what a parameter is bound to. Its type can be read off, so a handler
that asks for a value of the wrong type is told so. An `Arg` is a value or nothing:
a context that nobody provides, for instance.
-/

namespace ServiceDispatch

inductive Value where
  | integer (t : IntegerType) (n : Int)
  /-- A floating-point number by its pattern, sign included. -/
  | floating (t : FloatingType) (pattern : Nat)
  | bool (b : Bool)
  | char (c : Char)
  | text (s : String)
  | unit
  | tree (j : Json)
  /-- A stream by the bytes that it will give. -/
  | stream (content : Bytes)
  | request (r : Request)
  /-- The sink of the call if nothing else is given. -/
  | sink (own : Option Sink)
  /-- The chunk stream of the call if nothing else is given. -/
  | chunkStream (own : Option ChunkStream)
  | multipart (f : MultipartForm)
  | formParams (p : FormParams)
  | fileInfo (i : FileInfo)
  | formFile (f : FormFile)
  | optional (t : ValueType) (v : Option Value)
  | list (t : ValueType) (vs : List Value)
  | map (t : ValueType) (entries : List (String × Value))
  /-- A record of a type that the application declares. -/
  | record (typeName : String) (fields : List (String × Value))

namespace Value

def type : Value → ValueType
  | integer t _ => .integer t
  | floating t _ => .floating t
  | bool _ => .bool
  | char _ => .char
  | text _ => .text
  | unit => .unit
  | tree _ => .tree
  | stream _ => .stream
  | request _ => .request
  | sink _ => .sink
  | chunkStream _ => .chunkStream
  | multipart _ => .multipart
  | formParams _ => .formParams
  | fileInfo _ => .fileInfo
  | formFile _ => .formFile
  | optional t _ => .optional t
  | list t _ => .list t
  | map t _ => .map t
  | record typeName _ => .declared typeName

end Value

/-- A bound argument, `none` when it is absent. -/
abbrev Arg := Option Value

namespace Arg

/-- The name of the type that the argument holds. -/
def typeName : Arg → String
  | some v => v.type.name
  | none => "<absent>"

/-- Whether the argument holds a value of exactly the given type. -/
def holds (t : ValueType) : Arg → Bool
  | some v => v.type == t
  | none => false

/-- How an argument is shown: by its type. -/
def describe (a : Arg) : String := s!"Arg({a.typeName})"

@[simp] theorem holds_none (t : ValueType) : Arg.holds t none = false := rfl

theorem holds_some (t : ValueType) (v : Value) : Arg.holds t (some v) = true ↔ v.type = t := by
  simp [holds]

end Arg

end ServiceDispatch
