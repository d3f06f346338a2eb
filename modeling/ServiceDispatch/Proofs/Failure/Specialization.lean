import ServiceDispatch.Proofs.Failure.Depth

/-!
# The order of failure kinds

A kind specializes itself and every kind above it. The steps upwards give an order: they can be
taken one after another, the depth falls with each, and all of them lead to the universal kind.

`isA` takes no such steps. It looks for a name along the chain and leaves the universal kind out,
which a chain need not have. Where no two kinds share a name, the kind whose name it finds is the
one it was asked for, so it decides that order.
-/

namespace ServiceDispatch.FailureKind

variable {j k l : FailureKind}

/-- The second kind stands some steps above the first one, or is the same. -/
def Specializes (k l : FailureKind) : Prop := ∃ n, above? n k = some l

theorem above?_add (m n : Nat) (k : FailureKind) :
    above? (m + n) k = (above? m k).bind (above? n) := by
  induction m generalizing k with
  | zero => rw [Nat.zero_add, above?, Option.bind_some]
  | succ m ih =>
      rw [Nat.succ_add, above?, above?, Option.bind_assoc]
      exact congrArg _ (funext ih)

theorem Specializes.refl (k : FailureKind) : k.Specializes k := ⟨0, rfl⟩

theorem Specializes.trans (h : j.Specializes k) (h' : k.Specializes l) : j.Specializes l := by
  obtain ⟨m, hm⟩ := h
  obtain ⟨n, hn⟩ := h'
  exact ⟨m + n, by rw [above?_add, hm, Option.bind_some, hn]⟩

/-- The first step of a specialization, unless there is none. -/
theorem specializes_iff :
    k.Specializes l ↔ k = l ∨ ∃ p, k.parent? = some p ∧ p.Specializes l := by
  constructor
  · rintro ⟨n, hn⟩
    cases n with
    | zero => exact .inl (Option.some.inj hn)
    | succ n =>
        obtain ⟨p, hp, hn⟩ := Option.bind_eq_some_iff.1 hn
        exact .inr ⟨p, hp, n, hn⟩
  · rintro (rfl | ⟨p, hp, n, hn⟩)
    · exact .refl k
    · exact ⟨n + 1, Option.bind_eq_some_iff.2 ⟨p, hp, hn⟩⟩

theorem specializes_iff_mem_lineage : k.Specializes l ↔ l ∈ k.lineage := by
  induction k with
  | any => simp [specializes_iff (k := any), parent?, lineage, eq_comm]
  | root name =>
      simp [specializes_iff (k := root name), specializes_iff (k := any), parent?, lineage, eq_comm]
  | child name parent ih =>
      simp [specializes_iff (k := child name parent), parent?, lineage, ih, eq_comm]

theorem specializes_any (k : FailureKind) : k.Specializes any := by
  rw [specializes_iff_mem_lineage, lineage_eq]
  split
  · assumption
  · simp

theorem Specializes.depth_lt (h : k.Specializes l) (hne : k ≠ l) : l.depth < k.depth := by
  rw [specializes_iff_mem_lineage] at h
  have hlineage : k.lineage = [] ++ k :: k.lineage.tail := by cases k <;> rfl
  exact depth_lt_of_lineage_eq hlineage h List.not_mem_nil hne.symm

theorem Specializes.antisymm (h : k.Specializes l) (h' : l.Specializes k) : k = l := by
  by_contra hne
  exact Nat.lt_asymm (h.depth_lt hne) (h'.depth_lt (Ne.symm hne))

theorem isA_iff_specializes {ks : List FailureKind} (hks : NamedApart (ks.flatMap lineage))
    (hk : k ∈ ks) (hl : l ∈ ks) : k.isA l = true ↔ k.Specializes l := by
  by_cases hany : l = any
  · subst hany
    exact iff_of_true (isA_any k) (specializes_any k)
  · have hsub : k.lineage ⊆ ks.flatMap lineage := fun j hj => List.mem_flatMap.2 ⟨k, hk, hj⟩
    have hmem : l ∈ ks.flatMap lineage :=
      List.mem_flatMap.2 ⟨l, hl, specializes_iff_mem_lineage.1 (.refl l)⟩
    rw [isA_iff_mem_lineage hks hsub hmem hany, specializes_iff_mem_lineage]

/-- Among kinds that have names of their own, as those above them have, `isA` tells whether one is
reached from the other by steps upwards. So it is an order with the universal kind on top, along
which the depth falls. -/
theorem isA_order {ks : List FailureKind} (hks : NamedApart (ks.flatMap lineage)) :
    (∀ k ∈ ks, ∀ l ∈ ks, k.isA l = true ↔ ∃ n, above? n k = some l) ∧
      (∀ k ∈ ks, k.isA k = true) ∧
      (∀ j ∈ ks, ∀ k ∈ ks, ∀ l ∈ ks, j.isA k = true → k.isA l = true → j.isA l = true) ∧
      (∀ k ∈ ks, ∀ l ∈ ks, k.isA l = true → l.isA k = true → k = l) ∧
      (∀ k : FailureKind, k.isA any = true) ∧
      ∀ k ∈ ks, ∀ l ∈ ks, k.isA l = true → k ≠ l → l.depth < k.depth := by
  have hiff (k : FailureKind) (hk : k ∈ ks) (l : FailureKind) (hl : l ∈ ks) :
      k.isA l = true ↔ k.Specializes l := isA_iff_specializes hks hk hl
  refine ⟨hiff, fun k hk => ?_, fun j hj k hk l hl h h' => ?_, fun k hk l hl h h' => ?_,
    isA_any, fun k hk l hl h hne => ?_⟩
  · rw [hiff k hk k hk]
    exact .refl k
  · rw [hiff j hj k hk] at h
    rw [hiff k hk l hl] at h'
    rw [hiff j hj l hl]
    exact h.trans h'
  · rw [hiff k hk l hl] at h
    rw [hiff l hl k hk] at h'
    exact h.antisymm h'
  · rw [hiff k hk l hl] at h
    exact h.depth_lt hne

/-- A kind with the name of the universal kind is not taken for it. -/
theorem isA_order_namesake :
    let storage := child "app::Storage" any
    let missing := child "app::MissingRow" storage
    let namesake := root any.name
    NamedApart ([missing, storage, namesake].flatMap lineage) ∧ missing.isA storage = true ∧
      storage.depth < missing.depth ∧ missing.isA namesake = false := by
  intro storage missing namesake
  have hks : NamedApart ([missing, storage, namesake].flatMap lineage) := by
    unfold NamedApart
    decide
  obtain ⟨hiff, -, -, -, -, hdepth⟩ := isA_order hks
  have hmissing : missing.isA storage = true :=
    (hiff missing (by decide) storage (by decide)).2 ⟨1, rfl⟩
  have hlt := hdepth missing (by decide) storage (by decide) hmissing (by decide)
  exact ⟨hks, hmissing, hlt, by decide⟩

end ServiceDispatch.FailureKind
