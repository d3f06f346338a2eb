import ServiceDispatch.Failure.Mapper
import ServiceDispatch.Proofs.Failure.Lineage
import Mathlib.Data.List.Induction
import Mathlib.Data.List.Nodup

/-!
# Mapper tables after any history of calls

`run ops` is the table after the calls `ops` on an empty one, and `Latest ops k m` says that `m`
is the mapper that was last inserted for the kind `k`, and that no later call was about `k`. The
entries of the table are exactly these mappers, except that none is for the universal kind, and
they are strictly sorted. Both are kept by each call as long as kinds with one name are equal:
a mapper that is put in place of another then stands where it would be placed.

Lookup takes the first entry that fits. As the entries that fit a failure are those for the kinds
in its line, and depth falls both along the table and along the line, this is the entry for the
first kind of the line that has one.
-/

namespace ServiceDispatch

open FailureKind

/-- A call that changes a table of mappers. -/
inductive MapperOp where
  | insert (m : Mapper)
  | remove (kind : FailureKind)

namespace MapperOp

/-- The kind that the call is about. -/
def kind : MapperOp → FailureKind
  | insert m => m.handles
  | remove kind => kind

/-- The table behind the call. -/
def apply (t : MapperTable) : MapperOp → MapperTable
  | insert m => (t.insert m).2
  | remove kind => (t.remove kind).2

end MapperOp

namespace MapperTable

def run (ops : List MapperOp) : MapperTable := ops.foldl MapperOp.apply {}

/-- The mapper was inserted for the kind, and no later call was about that kind. -/
def Latest (ops : List MapperOp) (k : FailureKind) (m : Mapper) : Prop :=
  ∃ before after, ops = before ++ .insert m :: after ∧ m.handles = k ∧ ∀ op ∈ after, op.kind ≠ k

/-- Strictly sorted, without the universal kind. -/
structure Ordered (t : MapperTable) : Prop where
  sorted : t.kinds.Pairwise fun k l => sortsBefore k l = true
  not_universal : any ∉ t.kinds

/-! ### The order of kinds -/

theorem sortsBefore_iff {k l : FailureKind} :
    sortsBefore k l = true ↔ l.depth < k.depth ∨ k.depth = l.depth ∧ k.name < l.name := by
  simp [sortsBefore]

theorem sortsBefore_irrefl (k : FailureKind) : sortsBefore k k ≠ true := by
  rw [ne_eq, sortsBefore_iff]
  rintro (h | ⟨-, h⟩)
  · exact Nat.lt_irrefl _ h
  · exact String.lt_irrefl _ h

theorem sortsBefore_trans {j k l : FailureKind} (h : sortsBefore j k = true)
    (h' : sortsBefore k l = true) : sortsBefore j l = true := by
  rw [sortsBefore_iff] at h h' ⊢
  rcases h with h | ⟨h, hname⟩
  · rcases h' with h' | ⟨h', -⟩
    · exact .inl (Nat.lt_trans h' h)
    · exact .inl (h' ▸ h)
  · rcases h' with h' | ⟨h', hname'⟩
    · exact .inl (h ▸ h')
    · exact .inr ⟨h.trans h', String.lt_trans hname hname'⟩

/-- Kinds with different names are sorted one way or the other. -/
theorem sortsBefore_of_not {k l : FailureKind} (hname : k.name ≠ l.name)
    (h : sortsBefore k l ≠ true) : sortsBefore l k = true := by
  rw [ne_eq, sortsBefore_iff] at h
  rw [sortsBefore_iff]
  rcases Nat.lt_trichotomy k.depth l.depth with hlt | heq | hlt
  · exact .inl hlt
  · refine .inr ⟨heq.symm, Decidable.byContradiction fun hn => hname ?_⟩
    have hle : ¬ k.name < l.name := fun hlt => h (.inr ⟨heq, hlt⟩)
    exact String.le_antisymm (String.not_lt.1 hn) (String.not_lt.1 hle)
  · exact absurd (.inl hlt) h

theorem depth_le_of_sortsBefore {k l : FailureKind} (h : sortsBefore k l = true) :
    l.depth ≤ k.depth := by
  rcases sortsBefore_iff.1 h with h | ⟨h, -⟩
  · exact Nat.le_of_lt h
  · exact Nat.le_of_eq h.symm

/-! ### Sorted entries -/

theorem mem_kinds {t : MapperTable} {k : FailureKind} :
    k ∈ t.kinds ↔ ∃ m ∈ t.entries, m.handles = k :=
  List.mem_map

theorem Ordered.nodup {t : MapperTable} (h : t.Ordered) : t.kinds.Nodup := by
  apply h.sorted.imp
  rintro k l hlt rfl
  exact sortsBefore_irrefl k hlt

/-- A kind has one mapper. -/
theorem Ordered.eq_of_handles_eq {t : MapperTable} (h : t.Ordered) {m n : Mapper}
    (hm : m ∈ t.entries) (hn : n ∈ t.entries) (heq : m.handles = n.handles) : m = n :=
  List.inj_on_of_nodup_map h.nodup hm hn heq

/-- Behind a mapper none is for a deeper kind. -/
theorem Ordered.depth_le {t : MapperTable} (h : t.Ordered) {before after : List Mapper}
    {m : Mapper} (hentries : t.entries = before ++ m :: after) :
    ∀ n ∈ m :: after, n.handles.depth ≤ m.handles.depth := by
  have hsorted := h.sorted
  rw [kinds, hentries, List.map_append, List.pairwise_append, List.map_cons] at hsorted
  refine List.forall_mem_cons.2 ⟨Nat.le_refl _, fun n hn => depth_le_of_sortsBefore ?_⟩
  exact (List.pairwise_cons.1 hsorted.2.1).1 n.handles (List.mem_map_of_mem hn)

theorem Ordered.ne_any {t : MapperTable} (h : t.Ordered) {m : Mapper} (hm : m ∈ t.entries) :
    m.handles ≠ any :=
  fun hany => h.not_universal (mem_kinds.2 ⟨m, hm, hany⟩)

theorem mem_place {m x : Mapper} {es : List Mapper} : x ∈ place m es ↔ x = m ∨ x ∈ es := by
  induction es with
  | nil => simp [place]
  | cons e es ih =>
      rw [place]
      split
      · rw [List.mem_cons]
      · rw [List.mem_cons, ih, List.mem_cons, or_left_comm]

theorem mem_map_place {m : Mapper} {es : List Mapper} {k : FailureKind} :
    k ∈ (place m es).map Mapper.handles ↔ k = m.handles ∨ k ∈ es.map Mapper.handles := by
  simp only [List.mem_map, mem_place]
  constructor
  · rintro ⟨x, rfl | hx, rfl⟩
    · exact .inl rfl
    · exact .inr ⟨x, hx, rfl⟩
  · rintro (rfl | ⟨x, hx, rfl⟩)
    · exact ⟨m, .inl rfl, rfl⟩
    · exact ⟨x, .inr hx, rfl⟩

/-- A mapper for a new name is placed where the order wants it. -/
theorem sorted_place {m : Mapper} {es : List Mapper}
    (h : (es.map Mapper.handles).Pairwise fun k l => sortsBefore k l = true)
    (hname : ∀ e ∈ es, m.handles.name ≠ e.handles.name) :
    ((place m es).map Mapper.handles).Pairwise fun k l => sortsBefore k l = true := by
  induction es with
  | nil => exact List.pairwise_singleton _ _
  | cons e es ih =>
      rw [List.map_cons] at h
      obtain ⟨hhead, htail⟩ := List.pairwise_cons.1 h
      rw [place]
      split
      · next hlt =>
        refine List.pairwise_cons.2 ⟨fun k hk => ?_, h⟩
        rcases List.mem_cons.1 hk with rfl | hk
        · exact hlt
        · exact sortsBefore_trans hlt (hhead k hk)
      · next hlt =>
        refine List.pairwise_cons.2
          ⟨fun k hk => ?_, ih htail fun d hd => hname d (List.mem_cons_of_mem e hd)⟩
        rcases mem_map_place.1 hk with rfl | hk
        · exact sortsBefore_of_not (hname e (by simp)) hlt
        · exact hhead k hk

theorem forall_handles_ne {e : Mapper} {es : List Mapper}
    (h : ((e :: es).map Mapper.handles).Nodup) : ∀ x ∈ es, x.handles ≠ e.handles := by
  intro x hx heq
  rw [List.map_cons, List.nodup_cons, ← heq] at h
  exact h.1 (List.mem_map_of_mem hx)

/-- Where each kind has one mapper, replacing the first for a kind is replacing that mapper. -/
theorem replaceFirst_eq_map {m : Mapper} {es : List Mapper}
    (h : ∀ e ∈ es, e.handles.same m.handles = true → e.handles = m.handles)
    (hnodup : (es.map Mapper.handles).Nodup) :
    replaceFirst m es = es.map fun e => if e.handles = m.handles then m else e := by
  induction es with
  | nil => rfl
  | cons e es ih =>
      rw [replaceFirst, List.map_cons]
      by_cases heq : e.handles = m.handles
      · have hsame : e.handles.same m.handles = true := heq ▸ same_refl e.handles
        have htail : (es.map fun e => if e.handles = m.handles then m else e) = es := by
          refine Eq.trans (List.map_congr_left fun x hx => ?_) (List.map_id es)
          exact if_neg (heq ▸ forall_handles_ne hnodup x hx)
        rw [if_pos hsame, if_pos heq, htail]
      · have hsame : e.handles.same m.handles ≠ true := fun hs => heq (h e (by simp) hs)
        rw [if_neg hsame, if_neg heq,
          ih (fun d hd => h d (List.mem_cons_of_mem e hd)) (List.nodup_cons.1 hnodup).2]

/-- Where each kind has one mapper, removing the first for a kind is removing that mapper. -/
theorem eraseP_eq_filter {k : FailureKind} {es : List Mapper}
    (h : ∀ e ∈ es, e.handles.same k = true → e.handles = k)
    (hnodup : (es.map Mapper.handles).Nodup) :
    (es.eraseP fun e => e.handles.same k) = es.filter fun e => e.handles ≠ k := by
  induction es with
  | nil => rfl
  | cons e es ih =>
      by_cases heq : e.handles = k
      · have htail : ∀ x ∈ es, decide (x.handles ≠ k) = true := by
          intro x hx
          exact decide_eq_true (heq ▸ forall_handles_ne hnodup x hx)
        have hsame : e.handles.same k = true := heq ▸ same_refl e.handles
        rw [List.eraseP_cons, hsame, cond_true, List.filter_cons_of_neg (by simpa using heq),
          List.filter_eq_self.2 htail]
      · have hsame : e.handles.same k = false :=
          Bool.eq_false_iff.2 fun hs => heq (h e (by simp) hs)
        rw [List.eraseP_cons, hsame, cond_false, List.filter_cons_of_pos (by simpa using heq),
          ih (fun d hd => h d (List.mem_cons_of_mem e hd)) (List.nodup_cons.1 hnodup).2]

/-! ### One call -/

theorem insert_of_any {m : Mapper} (t : MapperTable) (h : m.handles = any) :
    (t.insert m).2 = t := by
  rw [insert, if_pos (isUniversal_iff.2 h)]

section Call

variable {t : MapperTable} {ks : List FailureKind}

theorem eq_of_same (hks : NamedApart ks) (hsub : t.kinds ⊆ ks) {k : FailureKind} (hk : k ∈ ks) :
    ∀ e ∈ t.entries, e.handles.same k = true → e.handles = k :=
  fun e he => hks e.handles (hsub (mem_kinds.2 ⟨e, he, rfl⟩)) k hk

theorem any_same_iff (hks : NamedApart ks) (hsub : t.kinds ⊆ ks) {k : FailureKind} (hk : k ∈ ks) :
    (t.entries.any fun e => e.handles.same k) = true ↔ k ∈ t.kinds := by
  rw [List.any_eq_true, mem_kinds]
  constructor
  · rintro ⟨e, he, hsame⟩
    exact ⟨e, he, eq_of_same hks hsub hk e he hsame⟩
  · rintro ⟨e, he, rfl⟩
    exact ⟨e, he, same_refl e.handles⟩

theorem insert_of_mem (ht : t.Ordered) (hks : NamedApart ks) (hsub : t.kinds ⊆ ks) {m : Mapper}
    (hm : m.handles ∈ ks) (hany : m.handles ≠ any) (hmem : m.handles ∈ t.kinds) :
    (t.insert m).2.entries = t.entries.map fun e => if e.handles = m.handles then m else e := by
  rw [insert, if_neg (mt isUniversal_iff.1 hany), if_pos ((any_same_iff hks hsub hm).2 hmem)]
  exact replaceFirst_eq_map (eq_of_same hks hsub hm) ht.nodup

theorem insert_of_not_mem (hks : NamedApart ks) (hsub : t.kinds ⊆ ks) {m : Mapper}
    (hm : m.handles ∈ ks) (hany : m.handles ≠ any) (hmem : m.handles ∉ t.kinds) :
    (t.insert m).2.entries = place m t.entries := by
  rw [insert, if_neg (mt isUniversal_iff.1 hany), if_neg (mt (any_same_iff hks hsub hm).1 hmem)]

theorem remove_eq (ht : t.Ordered) (hks : NamedApart ks) (hsub : t.kinds ⊆ ks) {k : FailureKind}
    (hk : k ∈ ks) : (t.remove k).2.entries = t.entries.filter fun e => e.handles ≠ k := by
  rw [← eraseP_eq_filter (eq_of_same hks hsub hk) ht.nodup, remove]
  cases h : t.entries.find? fun e => e.handles.same k with
  | none =>
      rw [List.find?_eq_none] at h
      exact (List.eraseP_of_forall_not h).symm
  | some m => rfl

theorem mem_insert_iff (ht : t.Ordered) (hks : NamedApart ks) (hsub : t.kinds ⊆ ks) {m : Mapper}
    (hm : m.handles ∈ ks) {x : Mapper} :
    x ∈ (t.insert m).2.entries ↔
      m = x ∧ x.handles ≠ any ∨ m.handles ≠ x.handles ∧ x ∈ t.entries := by
  by_cases hany : m.handles = any
  · rw [insert_of_any t hany]
    constructor
    · intro hx
      exact .inr ⟨fun h => ht.ne_any hx (h ▸ hany), hx⟩
    · rintro (⟨rfl, hne⟩ | ⟨-, hx⟩)
      · exact absurd hany hne
      · exact hx
  by_cases hmem : m.handles ∈ t.kinds
  · rw [insert_of_mem ht hks hsub hm hany hmem, List.mem_map]
    constructor
    · rintro ⟨e, he, rfl⟩
      split
      · exact .inl ⟨rfl, hany⟩
      · next hne => exact .inr ⟨Ne.symm hne, he⟩
    · rintro (⟨rfl, -⟩ | ⟨hne, hx⟩)
      · obtain ⟨e, he, heq⟩ := mem_kinds.1 hmem
        exact ⟨e, he, if_pos heq⟩
      · exact ⟨x, hx, if_neg (Ne.symm hne)⟩
  · rw [insert_of_not_mem hks hsub hm hany hmem, mem_place]
    constructor
    · rintro (rfl | hx)
      · exact .inl ⟨rfl, hany⟩
      · exact .inr ⟨fun h => hmem (mem_kinds.2 ⟨x, hx, h.symm⟩), hx⟩
    · rintro (⟨rfl, -⟩ | ⟨-, hx⟩)
      · exact .inl rfl
      · exact .inr hx

theorem mem_remove_iff (ht : t.Ordered) (hks : NamedApart ks) (hsub : t.kinds ⊆ ks)
    {k : FailureKind} (hk : k ∈ ks) {x : Mapper} :
    x ∈ (t.remove k).2.entries ↔ k ≠ x.handles ∧ x ∈ t.entries := by
  rw [remove_eq ht hks hsub hk, List.mem_filter, decide_eq_true_iff, ne_comm, and_comm]

/-- A call sets or removes the mapper of the kind that it is about, and leaves the others. -/
theorem mem_apply_iff (ht : t.Ordered) (hks : NamedApart ks) (hsub : t.kinds ⊆ ks)
    {op : MapperOp} (hop : op.kind ∈ ks) {x : Mapper} :
    x ∈ (op.apply t).entries ↔
      op = .insert x ∧ x.handles ≠ any ∨ op.kind ≠ x.handles ∧ x ∈ t.entries := by
  cases op with
  | insert m =>
      rw [MapperOp.insert.injEq]
      exact mem_insert_iff ht hks hsub hop
  | remove k =>
      have hother : ¬ (MapperOp.remove k = .insert x ∧ x.handles ≠ any) := by
        rintro ⟨⟨⟩, -⟩
      rw [or_iff_right hother]
      exact mem_remove_iff ht hks hsub hop

theorem ordered_apply (ht : t.Ordered) (hks : NamedApart ks) (hsub : t.kinds ⊆ ks)
    {op : MapperOp} (hop : op.kind ∈ ks) : (op.apply t).Ordered := by
  constructor
  · cases op with
    | insert m =>
        by_cases hany : m.handles = any
        · rw [MapperOp.apply, insert_of_any t hany]
          exact ht.sorted
        by_cases hmem : m.handles ∈ t.kinds
        · have hkinds : (MapperOp.apply t (.insert m)).kinds = t.kinds := by
            rw [kinds, MapperOp.apply, insert_of_mem ht hks hsub hop hany hmem, List.map_map]
            refine List.map_congr_left fun e _ => ?_
            rw [Function.comp_apply]
            split
            · next heq => exact heq.symm
            · rfl
          rw [hkinds]
          exact ht.sorted
        · rw [kinds, MapperOp.apply, insert_of_not_mem hks hsub hop hany hmem]
          refine sorted_place ht.sorted fun e he hname => hmem (mem_kinds.2 ⟨e, he, ?_⟩)
          apply eq_of_same hks hsub hop e he
          exact (same_iff (ht.ne_any he) hany).2 hname.symm
    | remove k =>
        have hk : k ∈ ks := hop
        rw [kinds, MapperOp.apply, remove_eq ht hks hsub hk]
        exact ht.sorted.sublist (List.filter_sublist.map Mapper.handles)
  · intro hany
    obtain ⟨x, hx, heq⟩ := mem_kinds.1 hany
    rcases (mem_apply_iff ht hks hsub hop).1 hx with ⟨-, hne⟩ | ⟨-, hmem⟩
    · exact hne heq
    · exact ht.ne_any hmem heq

end Call

/-! ### Histories of calls -/

theorem latest_append_singleton {ops : List MapperOp} {op : MapperOp} {k : FailureKind}
    {m : Mapper} :
    Latest (ops ++ [op]) k m ↔
      op = .insert m ∧ m.handles = k ∨ op.kind ≠ k ∧ Latest ops k m := by
  constructor
  · rintro ⟨before, after, heq, hm, hafter⟩
    rcases List.eq_nil_or_concat' after with rfl | ⟨after, op', rfl⟩
    · obtain ⟨-, hop⟩ := List.append_inj' heq rfl
      exact .inl ⟨List.singleton_inj.1 hop, hm⟩
    · rw [← List.cons_append, ← List.append_assoc] at heq
      obtain ⟨rfl, hop⟩ := List.append_inj' heq rfl
      obtain rfl := List.singleton_inj.1 hop
      exact .inr ⟨hafter op (by simp),
        before, after, rfl, hm, fun o ho => hafter o (List.mem_append_left _ ho)⟩
  · rintro (⟨rfl, hm⟩ | ⟨hop, before, after, rfl, hm, hafter⟩)
    · exact ⟨ops, [], rfl, hm, by simp⟩
    · refine ⟨before, after ++ [op], by simp, hm, fun o ho => ?_⟩
      rcases List.mem_append.1 ho with ho | ho
      · exact hafter o ho
      · rw [List.mem_singleton.1 ho]
        exact hop

theorem Latest.mem_kinds {ops : List MapperOp} {k : FailureKind} {m : Mapper}
    (h : Latest ops k m) : k ∈ ops.map MapperOp.kind := by
  obtain ⟨before, after, rfl, rfl, -⟩ := h
  simp [MapperOp.kind]

/-- After any history of calls the table is sorted, and its entries are the mappers that were
last inserted for their kinds and not removed since. -/
theorem run_spec {ops : List MapperOp} (hks : NamedApart (ops.map MapperOp.kind)) :
    (run ops).Ordered ∧
      ∀ m, m ∈ (run ops).entries ↔ m.handles ≠ any ∧ Latest ops m.handles m := by
  induction ops using List.reverseRecOn with
  | nil =>
      refine ⟨⟨List.Pairwise.nil, by simp [run, kinds]⟩, fun m => ?_⟩
      refine iff_of_false (by simp [run]) ?_
      rintro ⟨-, before, after, heq, -⟩
      simp at heq
  | append_singleton ops op ih =>
      have hprefix : ops.map MapperOp.kind ⊆ (ops ++ [op]).map MapperOp.kind := by
        simp
      obtain ⟨hordered, hmem⟩ := ih (hks.subset hprefix)
      have hsub : (run ops).kinds ⊆ (ops ++ [op]).map MapperOp.kind := by
        intro k hk
        obtain ⟨m, hm, rfl⟩ := MapperTable.mem_kinds.1 hk
        exact hprefix ((hmem m).1 hm).2.mem_kinds
      have hop : op.kind ∈ (ops ++ [op]).map MapperOp.kind := by simp
      have hrun : run (ops ++ [op]) = op.apply (run ops) := by
        rw [run, List.foldl_append]
        rfl
      rw [hrun]
      refine ⟨ordered_apply hordered hks hsub hop, fun m => ?_⟩
      rw [mem_apply_iff hordered hks hsub hop, hmem, latest_append_singleton]
      constructor
      · rintro (⟨rfl, hany⟩ | ⟨hne, hany, hlatest⟩)
        · exact ⟨hany, .inl ⟨rfl, rfl⟩⟩
        · exact ⟨hany, .inr ⟨hne, hlatest⟩⟩
      · rintro ⟨hany, ⟨rfl, -⟩ | ⟨hne, hlatest⟩⟩
        · exact .inl ⟨rfl, hany⟩
        · exact .inr ⟨hne, hany, hlatest⟩

/-! ### Lookup -/

section Lookup

variable {t : MapperTable} {failure : Failure} {ks : List FailureKind}

theorem fits_iff (ht : t.Ordered) (hks : NamedApart ks) (hsub : t.kinds ⊆ ks)
    (hline : failure.kind.lineage ⊆ ks) {m : Mapper} (hm : m ∈ t.entries) :
    failure.kind.isA m.handles = true ↔ m.handles ∈ failure.kind.lineage :=
  isA_iff_mem_lineage hks hline (hsub (mem_kinds.2 ⟨m, hm, rfl⟩)) (ht.ne_any hm)

/-- What is found stands in the failure's line, and in front of it there no kind has an entry:
such a kind would be deeper, so that its entry would have been found. -/
theorem of_find? (ht : t.Ordered) (hks : NamedApart ks) (hsub : t.kinds ⊆ ks)
    (hline : failure.kind.lineage ⊆ ks) {m : Mapper} (h : t.find? failure = some m) :
    m ∈ t.entries ∧ ∃ before after, failure.kind.lineage = before ++ m.handles :: after ∧
      ∀ n ∈ t.entries, n.handles ∉ before := by
  obtain ⟨hfits, earlier, later, hentries, hearlier⟩ := List.find?_eq_some_iff_append.1 h
  have hm : m ∈ t.entries := by simp [hentries]
  obtain ⟨before, after, hsplit⟩ := List.append_of_mem ((fits_iff ht hks hsub hline hm).1 hfits)
  refine ⟨hm, before, after, hsplit, fun n hn hbefore => ?_⟩
  have hdeeper : m.handles.depth < n.handles.depth := by
    have hpair := failure.kind.pairwise_depth_lineage
    rw [hsplit, List.pairwise_append] at hpair
    exact hpair.2.2 n.handles hbefore m.handles (by simp)
  have hnfits : failure.kind.isA n.handles = true :=
    (fits_iff ht hks hsub hline hn).2 (hsplit ▸ List.mem_append_left _ hbefore)
  rw [hentries, List.mem_append] at hn
  rcases hn with hn | hn
  · have hno := hearlier n hn
    rw [hnfits] at hno
    cases hno
  · exact Nat.not_lt_of_le (ht.depth_le hentries n hn) hdeeper

/-- In a sorted table, the entry that is found is the one for the first kind in the failure's
line that has an entry. -/
theorem find?_eq_some_iff (ht : t.Ordered) (hks : NamedApart ks) (hsub : t.kinds ⊆ ks)
    (hline : failure.kind.lineage ⊆ ks) {m : Mapper} :
    t.find? failure = some m ↔
      m ∈ t.entries ∧ ∃ before after, failure.kind.lineage = before ++ m.handles :: after ∧
        ∀ n ∈ t.entries, n.handles ∉ before := by
  constructor
  · exact of_find? ht hks hsub hline
  · rintro ⟨hm, before, after, hsplit, hbefore⟩
    have hmem : m.handles ∈ failure.kind.lineage := by simp [hsplit]
    have hfits := (fits_iff ht hks hsub hline hm).2 hmem
    obtain ⟨n, hfound⟩ : ∃ n, t.find? failure = some n :=
      Option.isSome_iff_exists.1 (List.find?_isSome.2 ⟨m, hm, hfits⟩)
    obtain ⟨hn, before', after', hsplit', hbefore'⟩ := of_find? ht hks hsub hline hfound
    have hmem' : n.handles ∈ failure.kind.lineage := by simp [hsplit']
    -- each of the two kinds is the first one with an entry, so neither is less deep
    have heq : m.handles = n.handles := by
      apply Decidable.byContradiction
      intro hne
      have hlt := depth_lt_of_lineage_eq hsplit hmem' (hbefore n hn) (Ne.symm hne)
      have hlt' := depth_lt_of_lineage_eq hsplit' hmem (hbefore' m hm) hne
      exact Nat.lt_asymm hlt hlt'
    rw [hfound, ht.eq_of_handles_eq hm hn heq]

theorem find?_eq_none_iff (ht : t.Ordered) (hks : NamedApart ks) (hsub : t.kinds ⊆ ks)
    (hline : failure.kind.lineage ⊆ ks) :
    t.find? failure = none ↔ ∀ m ∈ t.entries, m.handles ∉ failure.kind.lineage := by
  rw [find?, List.find?_eq_none]
  refine forall₂_congr fun m hm => not_congr ?_
  exact fits_iff ht hks hsub hline hm

/-- The answer to a failure is that of the first mapper that fits, in a sorted table the deepest one
that fits; or, where none fits, that it is the server's fault. -/
inductive Answers (t : MapperTable) (failure : Failure) : Response → Prop where
  | mapped {before after : List Mapper} {m : Mapper} (entries : t.entries = before ++ m :: after)
      (fits : failure.kind.isA m.handles = true)
      (first : ∀ n ∈ before, failure.kind.isA n.handles = false)
      (deepest : t.Ordered → ∀ n ∈ t.entries, failure.kind.isA n.handles = true →
        n.handles.depth ≤ m.handles.depth) : Answers t failure (m.respond failure)
  | unmapped (none : ∀ m ∈ t.entries, failure.kind.isA m.handles = false) :
      Answers t failure unmapped

end Lookup

/-- Whatever calls were made before, a failure finds the mapper that was last inserted, and not
removed since, for the first kind in its line that has such a mapper, where the universal kind
does not count; and it finds none exactly if no other kind in its line has one. -/
theorem find?_run {ops : List MapperOp} {failure : Failure}
    (hks : NamedApart (ops.map MapperOp.kind ++ failure.kind.lineage)) :
    (∀ m, (run ops).find? failure = some m ↔
        ∃ before k after, failure.kind.lineage = before ++ k :: after ∧ k ≠ any ∧
          Latest ops k m ∧ ∀ j ∈ before, j ≠ any → ¬ ∃ n, Latest ops j n) ∧
      ((run ops).find? failure = none ↔
        ∀ k ∈ failure.kind.lineage, k ≠ any → ¬ ∃ n, Latest ops k n) := by
  have hline := List.subset_append_right (ops.map MapperOp.kind) failure.kind.lineage
  have hops := List.subset_append_left (ops.map MapperOp.kind) failure.kind.lineage
  obtain ⟨ht, hmem⟩ := run_spec (hks.subset hops)
  have hsub : (run ops).kinds ⊆ ops.map MapperOp.kind ++ failure.kind.lineage := by
    intro k hk
    obtain ⟨m, hm, rfl⟩ := MapperTable.mem_kinds.1 hk
    exact hops ((hmem m).1 hm).2.mem_kinds
  -- a kind other than the universal one has a mapper exactly if it has an entry
  have hentry : ∀ {k m}, k ≠ any → Latest ops k m → m ∈ (run ops).entries ∧ m.handles = k := by
    intro k m hany hlatest
    obtain ⟨-, -, -, rfl, -⟩ := id hlatest
    exact ⟨(hmem m).2 ⟨hany, hlatest⟩, rfl⟩
  constructor
  · intro m
    rw [find?_eq_some_iff ht hks hsub hline, hmem]
    constructor
    · rintro ⟨⟨hany, hlatest⟩, before, after, hsplit, hbefore⟩
      refine ⟨before, m.handles, after, hsplit, hany, hlatest, fun j hj hne => ?_⟩
      rintro ⟨n, hn⟩
      obtain ⟨hentered, rfl⟩ := hentry hne hn
      exact hbefore n hentered hj
    · rintro ⟨before, k, after, hsplit, hany, hlatest, hbefore⟩
      obtain ⟨-, rfl⟩ := hentry hany hlatest
      refine ⟨⟨hany, hlatest⟩, before, after, hsplit, fun n hn hj => ?_⟩
      obtain ⟨hne, hn⟩ := (hmem n).1 hn
      exact hbefore n.handles hj hne ⟨n, hn⟩
  · rw [find?_eq_none_iff ht hks hsub hline]
    constructor
    · rintro h k hk hne ⟨n, hn⟩
      obtain ⟨hentered, rfl⟩ := hentry hne hn
      exact h n hentered hk
    · intro h m hm hk
      obtain ⟨hne, hlatest⟩ := (hmem m).1 hm
      exact h m.handles hk hne ⟨m, hlatest⟩

/-- After the mapper of a special kind was removed, its failures find the one for the kind above. -/
theorem find?_run_removed :
    (run [.insert ⟨.missingParameter, fun _ => unmapped⟩, .insert .standard,
      .remove .missingParameter]).find? (.raised .missingParameter "id") = some .standard := by
  have hks : NamedApart ([.insert ⟨.missingParameter, fun _ => unmapped⟩, .insert .standard,
      .remove .missingParameter].map MapperOp.kind ++
        (Failure.raised .missingParameter "id").kind.lineage) := by
    unfold NamedApart
    decide
  have hnone : ¬ ∃ n, Latest ([.insert ⟨.missingParameter, fun _ => unmapped⟩, .insert .standard] ++
      [.remove .missingParameter]) .missingParameter n := by
    rintro ⟨n, hn⟩
    rcases latest_append_singleton.1 hn with ⟨h, -⟩ | ⟨h, -⟩
    · cases h
    · exact h rfl
  refine ((find?_run hks).1 .standard).2
    ⟨[.missingParameter], .dispatch, [.any], rfl, by decide, ?_, ?_⟩
  · refine ⟨[.insert ⟨.missingParameter, fun _ => unmapped⟩], [.remove .missingParameter], rfl,
      rfl, fun op hop => ?_⟩
    rw [List.mem_singleton.1 hop]
    decide
  · intro j hj _
    rw [List.mem_singleton.1 hj]
    exact hnone

end MapperTable

end ServiceDispatch
