import ServiceDispatch.Data.Table
import ServiceDispatch.Number.Binary
import ServiceDispatch.Number.Integer

/-!
# Value trees

A `Json` is what a body is decoded into before a typed target is built from it.
Numbers keep the distinction between integers of up to 64 bits and finite doubles.
Members of an object stand in the order of their keys.
-/

namespace ServiceDispatch

/-- A number of a value tree. -/
inductive JsonNumber where
  /-- An integer between `-2^63` and `2^64 - 1`. -/
  | whole (n : Int)
  /-- A finite double: its sign and its pattern without the sign. -/
  | double (negative : Bool) (pattern : Nat)
  deriving DecidableEq, Repr

/-- A value tree. -/
inductive Json where
  | null
  | bool (b : Bool)
  | number (n : JsonNumber)
  | text (s : String)
  | list (items : List Json)
  | object (members : List (String × Json))
  deriving Inhabited

namespace Json

/-- The object with the given members, of which later ones win. -/
def ofMembers (members : List (String × Json)) : Json := .object (Table.ofList members)

def ofNat (n : Nat) : Json := .number (.whole n)

/-- The text of a tree that is one. -/
def text? : Json → Option String
  | .text s => some s
  | _ => none

/-- The number of a tree that is a whole one and not negative. -/
def nat? : Json → Option Nat
  | .number (.whole n) => if 0 ≤ n then some n.toNat else none
  | _ => none

/-- The items of a list, none for other trees. -/
def toList : Json → List Json
  | .list items => items
  | _ => []

theorem nat?_ofNat (n : Nat) : (ofNat n).nat? = some n := by simp [nat?, ofNat]

/-- The member of an object with the given name. -/
def member? (name : String) : Json → Option Json
  | .object members => Table.get? name members
  | _ => none

end Json

end ServiceDispatch
