import ServiceDispatch.Proofs.Failure.MapperTable
import Mathlib.Data.List.Sort

/-!
# One table for each assignment of mappers

The order of a mapper table is strict, so its entries stand in one order only: two tables that are
sorted and have the same entries are equal. As the entries are the mappers that were last inserted
for their kinds, a table does not tell in which order its mappers came, nor what was replaced or
removed on the way.
-/

namespace ServiceDispatch

open FailureKind

namespace MapperTable

/-! ### Sorted tables -/

/-- Of two kinds not both stand before the other. -/
theorem sortsBefore_asymm {k l : FailureKind} (h : sortsBefore k l = true) :
    sortsBefore l k ≠ true :=
  fun h' => sortsBefore_irrefl k (sortsBefore_trans h h')

/-- Sorted tables with the same entries are equal. -/
theorem Ordered.ext {t t' : MapperTable} (h : t.Ordered) (h' : t'.Ordered)
    (hmem : ∀ m, m ∈ t.entries ↔ m ∈ t'.entries) : t = t' := by
  let before (m n : Mapper) : Prop := sortsBefore m.handles n.handles = true
  have : Std.Irrefl before := ⟨fun m => sortsBefore_irrefl m.handles⟩
  have : Std.Antisymm before := ⟨fun m n hmn hnm => absurd hnm (sortsBefore_asymm hmn)⟩
  have hsorted : t.entries.Pairwise before := List.pairwise_map.1 h.sorted
  have hsorted' : t'.entries.Pairwise before := List.pairwise_map.1 h'.sorted
  obtain ⟨entries⟩ := t
  obtain ⟨entries'⟩ := t'
  exact congrArg MapperTable.mk (hsorted.eq_of_mem_iff hsorted' hmem)

/-- Where kinds are told apart by their names, no name occurs twice in a sorted table. -/
theorem Ordered.nodup_names {t : MapperTable} (h : t.Ordered) (hks : NamedApart t.kinds) :
    (t.kinds.map FailureKind.name).Nodup := by
  refine List.Nodup.map_on (fun k hk l hl hname => ?_) h.nodup
  have hany {j : FailureKind} (hj : j ∈ t.kinds) : j ≠ any := fun heq => h.not_universal (heq ▸ hj)
  exact hks k hk l hl ((same_iff (hany hk) (hany hl)).2 hname)

/-! ### Histories of calls -/

theorem not_latest_nil (k : FailureKind) (m : Mapper) : ¬ Latest [] k m := by
  rintro ⟨before, after, h, -⟩
  simp at h

/-- The kinds of a table were all inserted. -/
theorem kinds_run_subset {ops : List MapperOp} (hks : NamedApart (ops.map MapperOp.kind)) :
    (run ops).kinds ⊆ ops.map MapperOp.kind := by
  intro k hk
  obtain ⟨m, hm, rfl⟩ := MapperTable.mem_kinds.1 hk
  exact (((run_spec hks).2 m).1 hm).2.mem_kinds

/-- After any calls the entries are strictly sorted, deeper kinds first and kinds of one depth by
name, without the universal kind and with one entry for each name; the entry of a kind is the mapper
that was last inserted for it and not removed since. So two histories that leave the same mapper for
every kind leave the same table. -/
theorem run_canonical {ops : List MapperOp} (hks : NamedApart (ops.map MapperOp.kind)) :
    ((run ops).kinds.Pairwise fun k l =>
        l.depth < k.depth ∨ k.depth = l.depth ∧ k.name < l.name) ∧
      ((run ops).kinds.map FailureKind.name).Nodup ∧ any ∉ (run ops).kinds ∧
      (∀ k m, m ∈ (run ops).entries ∧ m.handles = k ↔ k ≠ any ∧ Latest ops k m) ∧
      ∀ ops', NamedApart (ops'.map MapperOp.kind) →
        (∀ k, k ≠ any → ∀ m, Latest ops k m ↔ Latest ops' k m) → run ops = run ops' := by
  obtain ⟨hordered, hmem⟩ := run_spec hks
  refine ⟨hordered.sorted.imp sortsBefore_iff.1,
    hordered.nodup_names (hks.subset (kinds_run_subset hks)), hordered.not_universal,
    fun k m => ?_, fun ops' hks' hsame => ?_⟩
  · rw [hmem]
    constructor
    · rintro ⟨h, rfl⟩
      exact h
    · rintro ⟨hany, hlatest⟩
      obtain ⟨-, -, -, rfl, -⟩ := id hlatest
      exact ⟨⟨hany, hlatest⟩, rfl⟩
  · obtain ⟨hordered', hmem'⟩ := run_spec hks'
    refine hordered.ext hordered' fun m => ?_
    rw [hmem, hmem']
    exact and_congr_right fun hany => hsame m.handles hany m

/-- Two mappers, inserted in either order; in the second history the one for the special kind comes
in place of another, which is removed. -/
theorem run_canonical_reordered :
    let special : Mapper := ⟨.missingParameter, fun _ => unmapped⟩
    let other : Mapper := ⟨.missingParameter, fun _ => Response.jsonError 404 ""⟩
    let ops := [MapperOp.insert special, .insert .standard]
    let ops' := [MapperOp.insert .standard, .insert other, .remove .missingParameter,
      .insert special]
    NamedApart (ops.map MapperOp.kind) ∧ NamedApart (ops'.map MapperOp.kind) ∧
      (∀ k, k ≠ any → ∀ m, Latest ops k m ↔ Latest ops' k m) ∧ run ops = run ops' := by
  intro special other ops ops'
  have hks : NamedApart (ops.map MapperOp.kind) := by
    unfold NamedApart
    decide
  have hks' : NamedApart (ops'.map MapperOp.kind) := by
    unfold NamedApart
    decide
  have hops (k : FailureKind) (m : Mapper) : Latest ops k m ↔
      m = .standard ∧ k = .dispatch ∨ m = special ∧ k = .missingParameter := by
    change Latest ([] ++ [.insert special] ++ [.insert .standard]) k m ↔ _
    simp only [latest_append_singleton, not_latest_nil, and_false, or_false, MapperOp.insert.injEq]
    constructor
    · rintro (⟨rfl, rfl⟩ | ⟨-, rfl, rfl⟩)
      · exact .inl ⟨rfl, rfl⟩
      · exact .inr ⟨rfl, rfl⟩
    · rintro (⟨rfl, rfl⟩ | ⟨rfl, rfl⟩)
      · exact .inl ⟨rfl, rfl⟩
      · exact .inr ⟨by decide, rfl, rfl⟩
  have hops' (k : FailureKind) (m : Mapper) : Latest ops' k m ↔
      m = .standard ∧ k = .dispatch ∨ m = special ∧ k = .missingParameter := by
    change Latest ([] ++ [.insert .standard] ++ [.insert other] ++ [.remove .missingParameter] ++
      [.insert special]) k m ↔ _
    simp only [latest_append_singleton, not_latest_nil, and_false, or_false, false_and, false_or,
      MapperOp.insert.injEq, reduceCtorEq]
    constructor
    · rintro (⟨rfl, rfl⟩ | ⟨-, hremoved, ⟨rfl, rfl⟩ | ⟨-, rfl, rfl⟩⟩)
      · exact .inr ⟨rfl, rfl⟩
      · exact absurd rfl hremoved
      · exact .inl ⟨rfl, rfl⟩
    · rintro (⟨rfl, rfl⟩ | ⟨rfl, rfl⟩)
      · exact .inr ⟨by decide, by decide, .inr ⟨by decide, rfl, rfl⟩⟩
      · exact .inl ⟨rfl, rfl⟩
  have hsame : ∀ k, k ≠ any → ∀ m, Latest ops k m ↔ Latest ops' k m :=
    fun k _ m => (hops k m).trans (hops' k m).symm
  exact ⟨hks, hks', hsame, (run_canonical hks).2.2.2.2 ops' hks' hsame⟩

end MapperTable

end ServiceDispatch
