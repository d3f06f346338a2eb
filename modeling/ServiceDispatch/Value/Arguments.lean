import ServiceDispatch.Text.Quoted
import ServiceDispatch.Value.Basic

/-!
# Argument lists

The arguments of a call are handed out one by one. Taking an argument empties its
slot; asking for a wrong type, for a slot that is empty or for one that does not
exist changes nothing.
-/

namespace ServiceDispatch

/-- Why an argument is not handed out. -/
inductive ArgumentError where
  | outOfRange (index length : Nat)
  | alreadyTaken (index : Nat)
  | typeMismatch (index : Nat) (expected actual : String)
  deriving DecidableEq, Repr

/-- The name of the error in reports. -/
def ArgumentError.code : ArgumentError → String
  | .outOfRange _ _ => "OutOfRange"
  | .alreadyTaken _ => "AlreadyTaken"
  | .typeMismatch _ _ _ => "TypeMismatch"

def ArgumentError.message : ArgumentError → String
  | .outOfRange index length =>
    s!"argument {index} is out of range ({length} arguments bound)"
  | .alreadyTaken index => s!"argument {index} was already taken"
  | .typeMismatch index expected actual => s!"argument {index} holds {actual}, not {expected}"

/-- Slots in order; an empty one has been taken. -/
structure Arguments where
  slots : List (Option Arg) := []

namespace Arguments

def ofList (args : List Arg) : Arguments := ⟨args.map some⟩

def length (a : Arguments) : Nat := a.slots.length

/-- The argument in a slot, unless it has been taken. -/
def get? (a : Arguments) (index : Nat) : Option Arg := a.slots[index]?.join

/-- The value in a slot if it has the given type. -/
def getAs? (a : Arguments) (t : ValueType) (index : Nat) : Option Value :=
  (a.get? index).join.filter fun v => v.type == t

/-- Puts something into a slot; nothing happens out of range. -/
def set (a : Arguments) (index : Nat) (slot : Option Arg) : Arguments :=
  ⟨a.slots.set index slot⟩

/-- Hands out the value of a slot as the given type. An absent argument is handed
out as nothing, whatever the type. -/
def take (a : Arguments) (t : ValueType) (index : Nat) : Except ArgumentError Arg × Arguments :=
  match a.slots[index]? with
  | none => (.error (.outOfRange index a.length), a)
  | some none => (.error (.alreadyTaken index), a)
  | some (some arg) =>
    if arg.isNone || arg.holds t then (.ok arg, a.set index none)
    else (.error (.typeMismatch index t.name arg.typeName), a)

/-- Puts an argument into a slot, and gives what was there before. -/
def replace (a : Arguments) (index : Nat) (arg : Arg) : Option Arg × Arguments :=
  (a.get? index, a.set index (some arg))

/-- How an argument list is shown. -/
def describe (a : Arguments) : String :=
  Text.record "Arguments"
    [("slots", Text.bracketed (a.slots.map (Text.optional Arg.describe)))]

@[simp] theorem length_ofList (args : List Arg) : (ofList args).length = args.length := by
  simp [ofList, length]

@[simp] theorem get?_ofList (args : List Arg) (index : Nat) :
    (ofList args).get? index = args[index]? := by
  cases h : args[index]? <;> simp [get?, ofList, h]

/-- An argument that is absent or holds the type asked for is handed out. -/
theorem take_ofList {args : List Arg} {index : Nat} {arg : Arg} {t : ValueType}
    (h : args[index]? = some arg) (ht : arg.isNone || arg.holds t) :
    ((ofList args).take t index).1 = .ok arg := by
  simp [take, ofList, h, ht]

@[simp] theorem length_set (a : Arguments) (index : Nat) (slot : Option Arg) :
    (a.set index slot).length = a.length := by
  simp [set, length]

end Arguments

end ServiceDispatch
