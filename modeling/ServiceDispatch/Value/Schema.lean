import ServiceDispatch.Text.Quoted
import ServiceDispatch.Value.Basic

/-!
# Typed values from value trees

A `Schema` describes a type whose values can be read from a tree. Integers must be
whole and in range, texts must be texts: nothing is converted. A record is read from
an object, where unknown members are ignored, or from a list of its fields in order.
-/

namespace ServiceDispatch

/-- Why a tree is no value of a type. -/
inductive SchemaError where
  | invalidType (found : Json) (expected : String)
  | outOfRange (n : Int) (expected : String)
  | missingField (name : String)
  | invalidLength (length : Nat) (expected : String)

namespace SchemaError

/-- What a tree is called when it is not what was expected. -/
def found : Json → String
  | .null => "null"
  | .bool b => s!"boolean `{b}`"
  | .number (.whole n) => s!"integer `{n}`"
  | .number n => s!"floating point `{n.render}`"
  | .text s => s!"string {Text.quoted s}"
  | .list _ => "sequence"
  | .object _ => "map"

def message : SchemaError → String
  | .invalidType j expected => s!"invalid type: {found j}, expected {expected}"
  | .outOfRange n expected => s!"invalid value: integer `{n}`, expected {expected}"
  | .missingField name => s!"missing field `{name}`"
  | .invalidLength length expected => s!"invalid length {length}, expected {expected}"

end SchemaError

/-- What a record takes for a field that is not given. -/
inductive FieldDefault where
  /-- The field must be given. -/
  | required
  /-- An object may leave the field out, a list may not. -/
  | inObjects (v : Value)
  | everywhere (v : Value)

inductive Schema where
  | tree
  | text
  | bool
  | integer (t : IntegerType)
  | list (s : Schema)
  | optional (s : Schema)
  | map (s : Schema)
  /-- A record with its full name, its short name, and its fields in order. -/
  | record (typeName shortName : String) (fields : List (String × Schema × FieldDefault))

namespace Schema

/-- The type of the values that a schema reads. -/
def type : Schema → ValueType
  | tree => .tree
  | text => .text
  | bool => .bool
  | integer t => .integer t
  | list s => .list s.type
  | optional s => .optional s.type
  | map s => .map s.type
  | record typeName _ _ => .declared typeName

/-- The schema for a type that declares nothing of its own. -/
def ofType? : ValueType → Option Schema
  | .tree => some .tree
  | .text => some .text
  | .bool => some .bool
  | .integer t => some (.integer t)
  | .list t => (ofType? t).map .list
  | .optional t => (ofType? t).map .optional
  | .map t => (ofType? t).map .map
  | _ => none

theorem type_of_ofType? {t : ValueType} {s : Schema} (h : ofType? t = some s) : s.type = t := by
  induction t generalizing s with
  | list t ih | optional t ih | map t ih =>
    obtain ⟨s', hs, rfl⟩ := Option.map_eq_some_iff.1 h
    simp [type, ih hs]
  | tree | text | bool | integer _ =>
    simp only [ofType?, Option.some.injEq] at h
    subst h
    rfl
  | _ => simp [ofType?] at h

/-- A field as it was found: not at all, or with the value that was read. -/
abbrev Found := String × FieldDefault × Option (Except SchemaError Value)

/-- The value of a field of an object. -/
def fieldValue (f : Found) : Except SchemaError (String × Value) :=
  match f.2.2, f.2.1 with
  | some r, _ => r.map fun v => (f.1, v)
  | none, .required => .error (.missingField f.1)
  | none, .inObjects v => .ok (f.1, v)
  | none, .everywhere v => .ok (f.1, v)

/-- The mistake in the first member, in the order of the object, that holds one. -/
def firstMistake? (members : List (String × Json)) (fields : List Found) : Option SchemaError :=
  members.findSome? fun m => fields.findSome? fun f =>
    match f.2.2 with
    | some (.error e) => if f.1 = m.1 then some e else none
    | _ => none

/-- The fields of a record from those found in an object. -/
def ofObject (members : List (String × Json)) (fields : List Found) :
    Except SchemaError (List (String × Value)) :=
  match firstMistake? members fields with
  | some e => .error e
  | none => fields.mapM fieldValue

def readInteger (t : IntegerType) : Json → Except SchemaError Value
  | .number (.whole n) =>
    if t.format.Fits n then .ok (.integer t n) else .error (.outOfRange n t.name)
  | j => .error (.invalidType j t.name)

mutual

/-- Reads a tree as a value of the type. -/
def read : Schema → Json → Except SchemaError Value
  | tree, j => .ok (.tree j)
  | text, .text s => .ok (.text s)
  | text, j => .error (.invalidType j "a string")
  | bool, .bool b => .ok (.bool b)
  | bool, j => .error (.invalidType j "a boolean")
  | integer t, j => readInteger t j
  | list s, .list items => (items.mapM fun j => read s j).map (.list s.type)
  | list _, j => .error (.invalidType j "a sequence")
  | optional s, .null => .ok (.optional s.type none)
  | optional s, j => (read s j).map fun v => .optional s.type (some v)
  | map s, .object members =>
    (members.mapM fun m => (read s m.2).map fun v => (m.1, v)).map (.map s.type)
  | map _, j => .error (.invalidType j "a map")
  | record typeName _ fields, .object members =>
    (ofObject members (findFields fields members)).map (.record typeName)
  | record typeName shortName fields, .list items =>
    (readItems s!"struct {shortName} with {fields.length} elements" items.length fields 0 items).map
      (.record typeName)
  | record _ shortName _, j => .error (.invalidType j s!"struct {shortName}")

/-- Looks the fields of a record up in an object. -/
def findFields : List (String × Schema × FieldDefault) → List (String × Json) → List Found
  | [], _ => []
  | (name, s, d) :: fields, members =>
    (name, d, (Table.get? name members).map fun j => read s j) :: findFields fields members

/-- Reads the fields of a record from the items of a list, from number `index` on. -/
def readItems (expected : String) (length : Nat) :
    List (String × Schema × FieldDefault) → Nat → List Json →
      Except SchemaError (List (String × Value))
  | [], _, [] => .ok []
  | [], _, _ :: _ => .error (.invalidLength length "fewer elements in array")
  | (name, s, _) :: fields, index, j :: items =>
    match read s j with
    | .error e => .error e
    | .ok v => (readItems expected length fields (index + 1) items).map ((name, v) :: ·)
  | (name, _, .everywhere v) :: fields, index, [] =>
    (readItems expected length fields (index + 1) []).map ((name, v) :: ·)
  | (_, _, _) :: _, index, [] => .error (.invalidLength index expected)

end

end Schema

end ServiceDispatch
