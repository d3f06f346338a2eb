import ServiceDispatch.Value.Arguments

/-!
# Arguments are handed out once

A handler looks at its arguments, takes them as values of some type and puts others in their
place, at any index and in any order; each such call is a `Use`. `Taking` lists the ways in which
taking a slot can go, with all that it does to the arguments. It makes no difference whether the
type is looked at first, or the slot is emptied and an argument of another type put back
(`take_eq_takeOut`).

Nothing is lost between two replacements of a slot: either the slot is as it was, and nothing came
out of it, or its argument came out, once, and the slot is empty. `Fate` says so of one use, and
since what is empty gives nothing, two fates in a row are one (`Fate.append`); so it holds of any
number of uses.
-/

namespace ServiceDispatch.Arguments

variable {a : Arguments} {t : ValueType} {i : Nat}

/-! ### One slot -/

theorem getElem?_slots_set_self {slot : Option Arg} (h : a.slots[i]?.isSome) :
    (a.set i slot).slots[i]? = some slot := by
  rw [set, List.getElem?_set_self (by simpa using h)]

theorem getElem?_slots_set_of_ne {j : Nat} (slot : Option Arg) (h : j ≠ i) :
    (a.set i slot).slots[j]? = a.slots[j]? :=
  List.getElem?_set_ne h.symm

theorem set_eq_self {slot : Option Arg} (h : a.slots[i]? = some slot) : a.set i slot = a := by
  obtain ⟨hi, rfl⟩ := List.getElem?_eq_some_iff.1 h
  rw [set, List.set_getElem_self]

/-- What taking a slot gives, and what it makes of the arguments. -/
inductive Taking (a : Arguments) (t : ValueType) (i : Nat) :
    Except ArgumentError Arg × Arguments → Prop where
  | outOfRange (slot : a.slots[i]? = none) : Taking a t i (.error (.outOfRange i a.length), a)
  | alreadyTaken (slot : a.slots[i]? = some none) : Taking a t i (.error (.alreadyTaken i), a)
  | typeMismatch {v : Value} (slot : a.slots[i]? = some (some (some v))) (type : v.type ≠ t) :
      Taking a t i (.error (.typeMismatch i t.name v.type.name), a)
  | handedOut {arg : Arg} (slot : a.slots[i]? = some (some arg)) (type : ∀ v ∈ arg, v.type = t) :
      Taking a t i (.ok arg, a.set i none)

theorem taking (a : Arguments) (t : ValueType) (i : Nat) : Taking a t i (a.take t i) := by
  rw [take]
  split
  · next slot => exact .outOfRange slot
  · next slot => exact .alreadyTaken slot
  · next arg slot =>
    cases arg with
    | none => exact .handedOut slot (by simp)
    | some v =>
        by_cases htype : v.type = t
        · rw [if_pos (by simp [Arg.holds_some, htype])]
          exact .handedOut slot (by simpa using htype)
        · rw [if_neg (by simp [Arg.holds_some, htype])]
          exact .typeMismatch slot htype

/-- An argument as a value of the given type. One that has another type is given back. -/
def downcast (t : ValueType) : Arg → Except Arg Arg
  | none => .ok none
  | some v => if v.type = t then .ok (some v) else .error (some v)

/-- Taking in two steps: the slot is emptied, and an argument that turns out to have another type is
put back. -/
def takeOut (a : Arguments) (t : ValueType) (i : Nat) : Except ArgumentError Arg × Arguments :=
  match a.slots[i]? with
  | none => (.error (.outOfRange i a.length), a)
  | some slot =>
    let emptied := a.set i none
    match slot with
    | none => (.error (.alreadyTaken i), emptied)
    | some arg => match downcast t arg with
      | .ok value => (.ok value, emptied)
      | .error arg => (.error (.typeMismatch i t.name arg.typeName), emptied.set i (some arg))

/-- What is put back makes the arguments what they were, so the type may as well be looked at
before the slot is emptied. -/
theorem take_eq_takeOut (a : Arguments) (t : ValueType) (i : Nat) : a.take t i = a.takeOut t i := by
  have htaking := a.taking t i
  generalize a.take t i = r at htaking
  rw [takeOut]
  cases htaking with
  | outOfRange slot => rw [slot]
  | alreadyTaken slot => simp only [slot, set_eq_self slot]
  | @typeMismatch v slot type =>
      have hback : (a.set i none).set i (some (some v)) = a := by
        rw [set, set, List.set_set]
        exact set_eq_self slot
      simp only [slot, downcast, if_neg type, hback]
      rfl
  | @handedOut arg slot type =>
      cases arg with
      | none => simp only [slot, downcast]
      | some v => simp only [slot, downcast, if_pos (type v rfl)]

/-- A take that fails leaves the arguments as they were. -/
theorem take_of_error {e : ArgumentError} (h : (a.take t i).1 = .error e) :
    (a.take t i).2 = a := by
  have htaking := a.taking t i
  generalize a.take t i = r at h htaking
  cases htaking with
  | outOfRange slot => rfl
  | alreadyTaken slot => rfl
  | typeMismatch slot type => rfl
  | handedOut slot type => cases h

/-- A take that succeeds gives what the slot held and empties it. -/
theorem take_of_ok {arg : Arg} (h : (a.take t i).1 = .ok arg) :
    a.slots[i]? = some (some arg) ∧ (a.take t i).2 = a.set i none := by
  have htaking := a.taking t i
  generalize a.take t i = r at h htaking
  cases htaking with
  | outOfRange slot => cases h
  | alreadyTaken slot => cases h
  | typeMismatch slot type => cases h
  | handedOut slot type =>
      cases h
      exact ⟨slot, rfl⟩

/-- A slot that is not empty is handed out as its own type; an absent argument has every type. -/
theorem take_ok_iff {arg : Arg} (h : a.slots[i]? = some (some arg)) :
    (∃ taken, (a.take t i).1 = .ok taken) ↔ arg = none ∨ Arg.holds t arg = true := by
  have htaking := a.taking t i
  generalize a.take t i = r at htaking
  cases htaking with
  | outOfRange slot => cases slot.symm.trans h
  | alreadyTaken slot => cases slot.symm.trans h
  | typeMismatch slot type =>
      cases slot.symm.trans h
      simp [Arg.holds_some, type]
  | handedOut slot type =>
      cases slot.symm.trans h
      cases arg with
      | none => simp
      | some v => simpa [Arg.holds_some] using type

/-! ### Uses -/

/-- What a handler does with its arguments. -/
inductive Use where
  | get (index : Nat)
  | take (t : ValueType) (index : Nat)
  | replace (index : Nat) (arg : Arg)

/-- The arguments once they have been used. -/
def after (a : Arguments) : Use → Arguments
  | .get _ => a
  | .take t index => (a.take t index).2
  | .replace index arg => (a.replace index arg).2

/-- What comes out of a slot by a use: the argument, if it is that slot that is taken and the take
succeeds. -/
def given (a : Arguments) (i : Nat) : Use → List Arg
  | .take t index => if index = i then (a.take t index).1.toOption.toList else []
  | _ => []

/-- The arguments after a list of uses. -/
def run (a : Arguments) (us : List Use) : Arguments := us.foldl after a

/-- All that comes out of a slot by a list of uses, in order. -/
def handedOut (i : Nat) : List Use → Arguments → List Arg
  | [], _ => []
  | u :: us, a => a.given i u ++ handedOut i us (a.after u)

/-- What becomes of a slot that is not replaced, with what comes out of it. -/
inductive Fate (before after : Option (Option Arg)) : List Arg → Prop where
  | kept (h : after = before) : Fate before after []
  | emptied {arg : Arg} (hbefore : before = some (some arg)) (hafter : after = some none) :
      Fate before after [arg]

/-- An empty slot gives nothing, so at most one of two fates in a row empties the slot. -/
theorem Fate.append {s s' s'' : Option (Option Arg)} {args args' : List Arg}
    (h : Fate s s' args) (h' : Fate s' s'' args') : Fate s s'' (args ++ args') := by
  cases h with
  | kept h =>
      subst h
      exact h'
  | emptied hbefore hafter =>
      cases h' with
      | kept h' => exact .emptied hbefore (h'.trans hafter)
      | emptied hbefore' hafter' => cases hafter.symm.trans hbefore'

theorem fate_take (a : Arguments) (t : ValueType) (i : Nat) :
    Fate a.slots[i]? (a.take t i).2.slots[i]? (a.take t i).1.toOption.toList := by
  have htaking := a.taking t i
  generalize a.take t i = r at htaking
  cases htaking with
  | outOfRange slot => exact .kept rfl
  | alreadyTaken slot => exact .kept rfl
  | typeMismatch slot type => exact .kept rfl
  | handedOut slot type =>
      refine .emptied slot (getElem?_slots_set_self ?_)
      rw [slot, Option.isSome_some]

/-- A use of another slot keeps the slot. -/
theorem getElem?_slots_take_of_ne {j : Nat} (h : j ≠ i) :
    (a.take t i).2.slots[j]? = a.slots[j]? := by
  have htaking := a.taking t i
  generalize a.take t i = r at htaking
  cases htaking with
  | outOfRange slot => rfl
  | alreadyTaken slot => rfl
  | typeMismatch slot type => rfl
  | handedOut slot type => exact getElem?_slots_set_of_ne none h

theorem fate_after {u : Use} (h : ∀ arg, u ≠ .replace i arg) :
    Fate a.slots[i]? (a.after u).slots[i]? (a.given i u) := by
  cases u with
  | get index => exact .kept rfl
  | take t index =>
      by_cases hindex : index = i
      · subst hindex
        rw [given, if_pos rfl]
        exact fate_take a t index
      · rw [given, if_neg hindex]
        exact .kept (getElem?_slots_take_of_ne (Ne.symm hindex))
  | replace index arg =>
      have hindex : i ≠ index := fun heq => h arg (heq ▸ rfl)
      exact .kept (getElem?_slots_set_of_ne (some arg) hindex)

theorem fate_run {us : List Use} (h : ∀ arg, .replace i arg ∉ us) :
    Fate a.slots[i]? (a.run us).slots[i]? (handedOut i us a) := by
  induction us generalizing a with
  | nil => exact .kept rfl
  | cons u us ih =>
      have hfirst : ∀ arg, u ≠ .replace i arg := fun arg heq => h arg (heq ▸ List.mem_cons_self)
      have hothers : ∀ arg, .replace i arg ∉ us :=
        fun arg hmem => h arg (List.mem_cons_of_mem u hmem)
      exact (fate_after hfirst).append (ih hothers)

theorem Fate.length_le {s s' : Option (Option Arg)} {args : List Arg} (h : Fate s s' args) :
    args.length ≤ 1 := by
  cases h with
  | kept h => exact Nat.zero_le 1
  | emptied hbefore hafter => exact Nat.le_refl 1

/-- Of arguments in any state, and so after any uses: a take that fails leaves every slot as it was;
one that succeeds gives what its slot held, empties that slot and leaves the others; a slot that is
not empty can be taken as the type that it holds and no other, or as any if it is absent. Over any
further uses that do not replace a slot, at most one take of it succeeds, and until then it holds
what it held. -/
theorem handed_out_once (a : Arguments) :
    (∀ t i e, (a.take t i).1 = .error e → ∀ j : Nat, (a.take t i).2.slots[j]? = a.slots[j]?) ∧
      (∀ t i arg, (a.take t i).1 = .ok arg → a.slots[i]? = some (some arg) ∧
        (a.take t i).2.slots[i]? = some none ∧
        ∀ j, j ≠ i → (a.take t i).2.slots[j]? = a.slots[j]?) ∧
      (∀ t i arg, a.slots[i]? = some (some arg) →
        ((∃ taken, (a.take t i).1 = .ok taken) ↔ arg = none ∨ Arg.holds t arg = true)) ∧
      ∀ i us, (∀ arg, Use.replace i arg ∉ us) → (handedOut i us a).length ≤ 1 ∧
        Fate a.slots[i]? (a.run us).slots[i]? (handedOut i us a) := by
  refine ⟨fun t i e h j => ?_, fun t i arg h => ?_, fun t i arg h => take_ok_iff h,
    fun i us h => ⟨(fate_run h).length_le, fate_run h⟩⟩
  · rw [take_of_error h]
  · obtain ⟨hslot, hafter⟩ := take_of_ok h
    refine ⟨hslot, ?_, fun j hj => getElem?_slots_take_of_ne hj⟩
    rw [hafter, getElem?_slots_set_self]
    rw [hslot, Option.isSome_some]

end ServiceDispatch.Arguments
