import ServiceDispatch.Proofs.Failure.Lineage

/-!
# Depth and distance

`above? n k` is the kind that stands `n` steps above `k`, and the distance of a kind is the number
of steps that lead to the universal kind. The line of a kind has one kind for each of these steps
and the kind itself, whereas the depth is the length of `chain`, which has the universal kind only
if it was named. So the two numbers agree for the kinds above which it was not, and where it was,
the depth is one too large: a kind that was declared below the universal kind by name is deeper
than one that was declared without a parent, although both stand directly below it.
-/

namespace ServiceDispatch.FailureKind

/-- The kind some steps above, if there are as many. -/
def above? : Nat → FailureKind → Option FailureKind
  | 0, k => some k
  | n + 1, k => k.parent?.bind (above? n)

theorem lineage_ne_nil (k : FailureKind) : k.lineage ≠ [] := by
  cases k <;> simp [lineage]

/-- Only the steps along the whole line lead to the universal kind. -/
theorem above?_eq_any_iff (n : Nat) (k : FailureKind) :
    above? n k = some any ↔ n + 1 = k.lineage.length := by
  induction n generalizing k with
  | zero =>
      cases k with
      | any => simp [above?, lineage]
      | root name => simp [above?, lineage]
      | child name parent => simp [above?, lineage, lineage_ne_nil]
  | succ n ih =>
      cases k with
      | any => simp [above?, parent?, lineage]
      | root name => simp [above?, parent?, ih, lineage]
      | child name parent => simp [above?, parent?, ih, lineage]

/-- A chain lacks nothing of the line but the universal kind, if that was not named. -/
theorem lineage_eq (k : FailureKind) :
    k.lineage = if any ∈ k.chain then k.chain else k.chain ++ [any] := by
  induction k with
  | any => rfl
  | root name => simp [lineage]
  | child name parent ih =>
      rw [lineage, ih]
      by_cases h : any ∈ parent.chain
      · simp [h]
      · simp [h]

/-- The kinds that are not universal have the length of their chain as depth. -/
theorem depth_of_ne_any {k : FailureKind} (h : k ≠ any) : k.depth = k.chain.length := by
  rw [depth, isUniversal_eq_false_iff.2 h]
  rfl

theorem mem_tail_chain {k : FailureKind} (h : k ≠ any) : any ∈ k.chain.tail ↔ any ∈ k.chain := by
  cases k with
  | any => exact absurd rfl h
  | root name => simp
  | child name parent => simp

/-- The distance, and one more where the universal kind was named, is the depth. -/
theorem length_lineage (k : FailureKind) :
    k.lineage.length + (if any ∈ k.chain.tail then 1 else 0) = k.depth + 1 := by
  by_cases hk : k = any
  · subst hk
    rfl
  · simp only [mem_tail_chain hk]
    rw [lineage_eq, depth_of_ne_any hk]
    by_cases h : any ∈ k.chain
    · rw [if_pos h, if_pos h]
    · rw [if_neg h, if_neg h, List.length_append, List.length_singleton]

theorem depth_of_parent? {k p : FailureKind} (h : k.parent? = some p) :
    k.depth = if p = any ∧ any ∈ k.chain then 2 else 1 + p.depth := by
  cases k with
  | any => cases h
  | root name =>
      cases h
      simp [depth, isUniversal]
  | child name parent =>
      cases h
      by_cases hp : p = any
      · subst hp
        simp [depth, isUniversal]
      · rw [depth_child, if_neg fun hand => hp hand.1, depth_of_ne_any hp, Nat.add_comm]

/-- The depth of a kind is the number of steps to the universal kind, unless that was named above
the kind; then it is one more. So it is zero for the universal kind itself and otherwise one more
than the depth of the kind above, except that it is two if that is the universal kind by name. -/
theorem depth_counts_steps (k : FailureKind) :
    (∀ n, above? n k = some any ↔ n + (if any ∈ k.chain.tail then 1 else 0) = k.depth) ∧
      (above? k.depth k = some any ↔ any ∉ k.chain.tail) ∧
      k.depth = k.parent?.elim 0 fun p => if p = any ∧ any ∈ k.chain then 2 else 1 + p.depth := by
  have hsteps (n : Nat) :
      above? n k = some any ↔ n + (if any ∈ k.chain.tail then 1 else 0) = k.depth := by
    have hlength := k.length_lineage
    rw [above?_eq_any_iff]
    omega
  refine ⟨hsteps, ?_, ?_⟩
  · rw [hsteps]
    by_cases h : any ∈ k.chain.tail
    · simp [h]
    · simp [h]
  · cases h : k.parent? with
    | none =>
        cases k with
        | any => rfl
        | root name => cases h
        | child name parent => cases h
    | some p => exact depth_of_parent? h

/-- A kind that names the universal kind is one step below it and has depth two. -/
theorem depth_child_of_any :
    above? 1 (child "app::Storage" any) = some any ∧ (child "app::Storage" any).depth = 2 ∧
      (child "app::Storage" any).depth ≠ 1 + any.depth := by
  decide

end ServiceDispatch.FailureKind
