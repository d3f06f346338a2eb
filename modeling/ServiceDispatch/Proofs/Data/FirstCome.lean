import Mathlib.Data.List.DropRight
import Mathlib.Data.List.Induction

/-!
# First come

Entries are added under keys and removed by their key. A table in which a key that is taken keeps
its entry has under each key what was added first since the key was last removed: one law for each
kind of call gives that for every history of calls (`FirstComes.look_foldl`). In a list to which
entries are added behind the others they stand in the order of these first additions (`standing`).
-/

namespace ServiceDispatch

/-- A call that adds an entry under a key, or removes what is under a key. -/
inductive KeyedCall (κ α : Type) where
  | add (key : κ) (a : α)
  | remove (key : κ)

namespace KeyedCall

variable {κ α : Type} [DecidableEq κ]

def removes (key : κ) : KeyedCall κ α → Bool
  | add _ _ => false
  | remove k => k = key

@[simp] theorem removes_add (key j : κ) (a : α) : removes key (add j a) = false := rfl

@[simp] theorem removes_remove (key j : κ) :
    removes key (remove j : KeyedCall κ α) = decide (j = key) := rfl

/-- What the call adds under a key. -/
def added? (key : κ) : KeyedCall κ α → Option α
  | add k a => if k = key then some a else none
  | remove _ => none

/-- The calls since a key was last removed. -/
def since (key : κ) (calls : List (KeyedCall κ α)) : List (KeyedCall κ α) :=
  calls.rtakeWhile fun call => !call.removes key

/-- What was added first under a key since the key was last removed. -/
def first? (key : κ) (calls : List (KeyedCall κ α)) : Option α :=
  (since key calls).findSome? (added? key)

theorem first?_append_add (calls : List (KeyedCall κ α)) (j : κ) (a : α) (key : κ) :
    first? key (calls ++ [add j a]) =
      (first? key calls).or (if j = key then some a else none) := by
  rw [first?, since, List.rtakeWhile_concat_pos _ _ _ rfl, List.findSome?_append,
    List.findSome?_singleton]
  rfl

theorem first?_append_remove (calls : List (KeyedCall κ α)) (j key : κ) :
    first? key (calls ++ [remove j]) = if j = key then none else first? key calls := by
  by_cases hj : j = key
  · rw [first?, since, List.rtakeWhile_concat_neg _ _ _ (by simp [removes, hj]), if_pos hj]
    rfl
  · rw [first?, since, List.rtakeWhile_concat_pos _ _ _ (by simp [removes, hj]),
      List.findSome?_append, if_neg hj]
    exact Option.or_none

/-- A table as it is looked into and changed, in which a key that is taken keeps its entry. -/
structure FirstComes {τ : Type} (look : τ → κ → Option α) (step : τ → KeyedCall κ α → τ) : Prop
    where
  add (t : τ) (j : κ) (a : α) (key : κ) : look (step t (add j a)) key =
    (look t key).or (if j = key then some a else none)
  remove (t : τ) (j key : κ) : look (step t (remove j)) key =
    if j = key then none else look t key

theorem FirstComes.look_foldl {τ : Type} {look : τ → κ → Option α} {step : τ → KeyedCall κ α → τ}
    (h : FirstComes look step) {start : τ} (hstart : ∀ key, look start key = none)
    (calls : List (KeyedCall κ α)) (key : κ) :
    look (calls.foldl step start) key = first? key calls := by
  induction calls using List.reverseRecOn with
  | nil => exact hstart key
  | append_singleton calls call ih =>
      rw [List.foldl_append, List.foldl_cons, List.foldl_nil]
      cases call with
      | add j a => rw [h.add, ih, first?_append_add]
      | remove j => rw [h.remove, ih, first?_append_remove]

/-! ### Additions in their order -/

/-- What a call adds, if it comes first under its key behind the earlier calls and no later one
removes it. -/
def stands? (earlier later : List (KeyedCall κ α)) : KeyedCall κ α → Option (κ × α)
  | add key a =>
    if (first? key earlier).isNone && !later.any (removes key) then some (key, a) else none
  | remove _ => none

/-- What stands of some calls behind earlier ones, in the order in which it was added. -/
def standing (earlier : List (KeyedCall κ α)) : List (KeyedCall κ α) → List (κ × α)
  | [] => []
  | call :: later => (stands? earlier later call).toList ++ standing (earlier ++ [call]) later

theorem stands?_append_add (earlier later : List (KeyedCall κ α)) (key : κ) (a : α)
    (call : KeyedCall κ α) :
    stands? earlier (later ++ [add key a]) call = stands? earlier later call := by
  cases call with
  | add j b =>
      have hlater : (later ++ [add key a]).any (removes j) = later.any (removes j) := by
        rw [List.any_append, List.any_cons, removes_add, List.any_nil, Bool.or_false, Bool.or_false]
      rw [stands?, hlater, stands?]
  | remove j => rfl

theorem stands?_append_remove (earlier later : List (KeyedCall κ α)) (key : κ)
    (call : KeyedCall κ α) : stands? earlier (later ++ [remove key]) call =
      (stands? earlier later call).filter fun e => e.1 ≠ key := by
  cases call with
  | add j b =>
      have hlater : (later ++ [remove key]).any (removes j) =
          (later.any (removes j) || decide (key = j)) := by
        rw [List.any_append, List.any_cons, removes_remove, List.any_nil, Bool.or_false]
      rw [stands?, hlater, stands?]
      by_cases hj : key = j
      · rw [if_neg (by simp [hj])]
        split
        · rw [Option.filter_some, if_neg (by simp [hj])]
        · rfl
      · rw [decide_eq_false hj, Bool.or_false]
        split
        · rw [Option.filter_some, if_pos (by simp [Ne.symm hj])]
        · rfl
  | remove j => rfl

theorem standing_append_add (earlier calls : List (KeyedCall κ α)) (key : κ) (a : α) :
    standing earlier (calls ++ [add key a]) = standing earlier calls ++
      if first? key (earlier ++ calls) = none then [(key, a)] else [] := by
  induction calls generalizing earlier with
  | nil =>
      rw [List.nil_append, standing, standing, standing, stands?, List.append_nil, List.append_nil,
        List.nil_append]
      cases first? key earlier <;> rfl
  | cons call calls ih =>
      rw [List.cons_append, standing, stands?_append_add, ih, List.append_assoc, standing,
        List.append_assoc]
      rfl

theorem standing_append_remove (earlier calls : List (KeyedCall κ α)) (key : κ) :
    standing earlier (calls ++ [remove key]) =
      (standing earlier calls).filter fun e => e.1 ≠ key := by
  induction calls generalizing earlier with
  | nil => rfl
  | cons call calls ih =>
      rw [List.cons_append, standing, stands?_append_remove, ih, standing, List.filter_append,
        Option.toList_filter]

end KeyedCall

end ServiceDispatch
