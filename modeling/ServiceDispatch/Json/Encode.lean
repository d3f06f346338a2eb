import ServiceDispatch.Json.Basic
import ServiceDispatch.Text.Cut
import ServiceDispatch.Text.Hex

/-!
# Values as trees

`ToJson` is for types whose values can be told as value trees. What may be absent is
null if it is, a pair is a list of two items, and bytes are a text if they are one.
-/

namespace ServiceDispatch

/-- Types whose values can be told as value trees. -/
class ToJson (α : Type) where
  toJson : α → Json

export ToJson (toJson)

variable {α β : Type} [ToJson α] [ToJson β]

instance : ToJson Json := ⟨id⟩

instance : ToJson String := ⟨.text⟩

instance : ToJson Bool := ⟨.bool⟩

instance : ToJson Nat := ⟨.ofNat⟩

instance : ToJson (List α) := ⟨fun xs => .list (xs.map toJson)⟩

instance : ToJson (Option α) := ⟨fun o => (o.map toJson).getD .null⟩

instance : ToJson (α × β) := ⟨fun p => .list [toJson p.1, toJson p.2]⟩

/-- Either of two is told as what it is. -/
instance : ToJson (Except α β) where
  toJson
    | .ok b => toJson b
    | .error a => toJson a

/-- Bytes are told as the text that they are, or else by their digits. -/
instance : ToJson Bytes where
  toJson b := match Utf8.decode? b with
    | some s => .text s
    | none => .object [("hex", .text (Hex.encode b))]

namespace Json

/-- The object with the given members; the keys stand in a text, with blanks between
them, in the order of the values. -/
def ofFields (keys : String) (values : List Json) : Json :=
  ofMembers (((Text.pieces [' '] keys.toList).map String.ofList).zip values)

/-- The members of two objects, of which those of the second win. -/
def merge : Json → Json → Json
  | .object a, .object b => ofMembers (a ++ b)
  | a, _ => a

/-- The member of an object with the given name, or null. -/
def memberOrNull (j : Json) (name : String) : Json := (j.member? name).getD .null

end Json

theorem toJson_option_none : toJson (none : Option α) = .null := rfl

theorem toJson_option_some (a : α) : toJson (some a) = toJson a := rfl

end ServiceDispatch
