import ServiceDispatch.Failure.Kind
import Mathlib.Data.List.Pairwise

/-!
# The line of a failure kind

`lineage k` is the kind `k` with everything above it, up to the universal kind. It differs from
`chain` only in the universal kind at its end, which a root kind has above it without naming it.
The depth falls strictly along a line, so each kind stands in it once and the depths tell which
of two kinds in it is the more special one.

Kinds are compared by name. Where no two of them share a name, being a specialization of a kind
is having it in one's line.
-/

namespace ServiceDispatch.FailureKind

/-- The kind, the kind above it, and so on. -/
def lineage : FailureKind → List FailureKind
  | any => [any]
  | root name => [root name, any]
  | child name parent => child name parent :: parent.lineage

theorem isUniversal_iff {k : FailureKind} : k.isUniversal = true ↔ k = any := by
  cases k <;> simp [isUniversal]

theorem isUniversal_eq_false_iff {k : FailureKind} : k.isUniversal = false ↔ k ≠ any := by
  rw [← Bool.not_eq_true, isUniversal_iff]

/-- Below the universal kind, the line is what was named above the kind. -/
theorem mem_chain_iff {k l : FailureKind} (hl : l ≠ any) : l ∈ k.chain ↔ l ∈ k.lineage := by
  induction k with
  | any => rfl
  | root name => simp [lineage, hl]
  | child name parent ih => simp [lineage, ih]

theorem depth_le_length (k : FailureKind) : k.depth ≤ k.chain.length := by
  rw [depth]
  split
  · exact Nat.zero_le _
  · exact Nat.le_refl _

theorem depth_child (name : String) (parent : FailureKind) :
    (child name parent).depth = parent.chain.length + 1 := by
  simp [depth, isUniversal]

theorem depth_le_of_mem_lineage {k l : FailureKind} (h : l ∈ k.lineage) : l.depth ≤ k.depth := by
  induction k with
  | any =>
      rw [lineage, List.mem_singleton] at h
      exact h ▸ Nat.le_refl _
  | root name =>
      rw [lineage, List.mem_cons, List.mem_singleton] at h
      rcases h with rfl | rfl
      · exact Nat.le_refl _
      · exact Nat.zero_le _
  | child name parent ih =>
      rw [lineage, List.mem_cons] at h
      rcases h with rfl | h
      · exact Nat.le_refl _
      · rw [depth_child]
        exact Nat.le_succ_of_le (Nat.le_trans (ih h) parent.depth_le_length)

/-- The depth falls along the line. -/
theorem pairwise_depth_lineage (k : FailureKind) :
    k.lineage.Pairwise fun l l' => l'.depth < l.depth := by
  induction k with
  | any => exact List.pairwise_singleton _ _
  | root name =>
      rw [lineage, List.pairwise_pair]
      exact Nat.zero_lt_one
  | child name parent ih =>
      rw [lineage, List.pairwise_cons]
      refine ⟨fun l hl => ?_, ih⟩
      rw [depth_child]
      exact Nat.lt_succ_of_le (Nat.le_trans (depth_le_of_mem_lineage hl) parent.depth_le_length)

/-- Of two kinds in a line, the one that does not stand first is less deep. -/
theorem depth_lt_of_lineage_eq {k l j : FailureKind} {before after : List FailureKind}
    (h : k.lineage = before ++ l :: after) (hj : j ∈ k.lineage) (hbefore : j ∉ before)
    (hne : j ≠ l) : j.depth < l.depth := by
  have hpair := k.pairwise_depth_lineage
  rw [h, List.pairwise_append, List.pairwise_cons] at hpair
  rw [h, List.mem_append, List.mem_cons] at hj
  rcases hj with hj | rfl | hj
  · exact absurd hj hbefore
  · exact absurd rfl hne
  · exact hpair.2.1.1 j hj

/-! ### Names -/

/-- No two of the kinds are taken for each other. -/
def NamedApart (ks : List FailureKind) : Prop := ∀ k ∈ ks, ∀ l ∈ ks, k.same l = true → k = l

theorem NamedApart.subset {ks ls : List FailureKind} (h : NamedApart ls) (hsub : ks ⊆ ls) :
    NamedApart ks :=
  fun k hk l hl => h k (hsub hk) l (hsub hl)

@[simp] theorem same_refl (k : FailureKind) : k.same k = true := by simp [same]

theorem same_iff {k l : FailureKind} (hk : k ≠ any) (hl : l ≠ any) :
    k.same l = true ↔ k.name = l.name := by
  rw [← isUniversal_eq_false_iff] at hk hl
  simp [same, hk, hl]

theorem isA_iff {k l : FailureKind} (hl : l ≠ any) :
    k.isA l = true ↔ ∃ j ∈ k.lineage, j.same l = true := by
  have hfalse := isUniversal_eq_false_iff.2 hl
  rw [isA, hfalse, Bool.false_or, List.any_eq_true]
  constructor
  · rintro ⟨j, hj, h⟩
    rw [Bool.and_eq_true, beq_iff_eq, Bool.not_eq_true', isUniversal_eq_false_iff] at h
    exact ⟨j, (mem_chain_iff h.2).1 hj, (same_iff h.2 hl).2 h.1⟩
  · rintro ⟨j, hj, h⟩
    rw [same, Bool.and_eq_true, beq_iff_eq, beq_iff_eq, hfalse] at h
    refine ⟨j, (mem_chain_iff (isUniversal_eq_false_iff.1 h.2)).2 hj, ?_⟩
    rw [h.1, h.2, beq_self_eq_true]
    rfl

/-- Kinds with names of their own are specializations of the kinds in their line. -/
theorem isA_iff_mem_lineage {k l : FailureKind} {ks : List FailureKind} (hks : NamedApart ks)
    (hk : k.lineage ⊆ ks) (hmem : l ∈ ks) (hl : l ≠ any) : k.isA l = true ↔ l ∈ k.lineage := by
  rw [isA_iff hl]
  constructor
  · rintro ⟨j, hj, h⟩
    rwa [← hks j (hk hj) l hmem h]
  · intro h
    exact ⟨l, h, same_refl l⟩

end ServiceDispatch.FailureKind
