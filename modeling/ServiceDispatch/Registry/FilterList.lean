import ServiceDispatch.Value.Type

/-!
# Registered filters

Filters stand in the order of their registration, each under a key of its own: a key
that is taken keeps its filter until it is removed.
-/

namespace ServiceDispatch

/-- Filters by key, in the order of registration. -/
abbrev FilterList (φ : Type) := List (ValueType × φ)

namespace FilterList

variable {φ : Type}

/-- The keys in order. -/
def keys (fs : FilterList φ) : List ValueType := fs.map Prod.fst

def contains (key : ValueType) (fs : FilterList φ) : Bool := fs.any fun f => f.1 == key

/-- The filter under a key. -/
def find? (key : ValueType) (fs : FilterList φ) : Option φ :=
  (List.find? (fun f => f.1 == key) fs).map Prod.snd

/-- Adds a filter behind the others unless its key is taken; tells whether it did. -/
def register (key : ValueType) (filter : φ) (fs : FilterList φ) : Bool × FilterList φ :=
  if contains key fs then (false, fs) else (true, fs ++ [(key, filter)])

/-- Removes the filter under a key; tells whether there was one. -/
def remove (key : ValueType) (fs : FilterList φ) : Bool × FilterList φ :=
  (contains key fs, fs.filter fun f => f.1 != key)

/-- The filters whose key is not among those given. -/
def without (applied : ValueType → Bool) (fs : FilterList φ) : FilterList φ :=
  fs.filter fun f => !applied f.1

theorem find?_eq_lookup (key : ValueType) (fs : FilterList φ) : find? key fs = fs.lookup key := by
  induction fs with
  | nil => rfl
  | cons f fs ih =>
    rw [find?, List.find?_cons, List.lookup_cons, BEq.comm]
    cases key == f.1 with
    | true => rfl
    | false => exact ih

theorem keys_register (key : ValueType) (filter : φ) (fs : FilterList φ) :
    keys (register key filter fs).2 = if contains key fs then keys fs else keys fs ++ [key] := by
  by_cases h : contains key fs <;> simp [register, keys, h]

end FilterList

end ServiceDispatch
