import ServiceDispatch.Proofs.Registry.Registrations

/-!
# Coherent snapshots

The metadata and the global filters of a published snapshot are those of its services and filters,
because publishing makes them anew. Filter keys and the kinds of mappers stay apart because every
change of their tables keeps them apart. For kinds this asks nothing of their names: a mapper takes
the place of one whose kind has the same name, so the names in the table are not changed by that.
The filters themselves, and with them the global ones, stand in the order in which their keys were
registered, which is told from the calls alone.
-/

namespace ServiceDispatch

/-! ### Keys of filters -/

namespace FilterList

variable {φ : Type} {fs : FilterList φ}

theorem contains_iff {key : ValueType} : contains key fs = true ↔ key ∈ keys fs := by
  rw [contains, List.any_eq_true, keys, List.mem_map]
  exact exists_congr fun f => and_congr_right fun _ => beq_iff_eq

theorem nodup_register (key : ValueType) (filter : φ) (h : (keys fs).Nodup) :
    (keys (register key filter fs).2).Nodup := by
  rw [keys_register]
  split
  · exact h
  · next hfree =>
    rw [contains_iff] at hfree
    exact List.nodup_append'.2 ⟨h, List.nodup_singleton key, by simpa using hfree⟩

theorem nodup_remove (key : ValueType) (h : (keys fs).Nodup) : (keys (remove key fs).2).Nodup :=
  h.sublist (List.filter_sublist.map Prod.fst)

end FilterList

/-! ### Kinds of mappers -/

namespace MapperTable

/-- Without the universal kind, and with no name twice. -/
structure Distinct (t : MapperTable) : Prop where
  not_universal : ∀ k ∈ t.kinds, k.isUniversal = false
  nodup : (t.kinds.map FailureKind.name).Nodup

theorem perm_place (m : Mapper) (es : List Mapper) : (place m es).Perm (m :: es) := by
  induction es with
  | nil => exact .refl _
  | cons e es ih =>
      rw [place]
      split
      · exact .refl _
      · exact (ih.cons e).trans (.swap m e es)

theorem map_name_replaceFirst (m : Mapper) (es : List Mapper) :
    ((replaceFirst m es).map Mapper.handles).map FailureKind.name =
      (es.map Mapper.handles).map FailureKind.name := by
  induction es with
  | nil => rfl
  | cons e es ih =>
      rw [replaceFirst]
      split
      · next hsame =>
        simp only [FailureKind.same, Bool.and_eq_true, beq_iff_eq] at hsame
        simp [hsame.1]
      · simpa using ih

theorem forall_kinds_replaceFirst {m : Mapper} {es : List Mapper} {p : FailureKind → Prop}
    (hm : p m.handles) (h : ∀ k ∈ es.map Mapper.handles, p k) :
    ∀ k ∈ (replaceFirst m es).map Mapper.handles, p k := by
  induction es with
  | nil => exact h
  | cons e es ih =>
      obtain ⟨he, hes⟩ := List.forall_mem_cons.1 h
      rw [replaceFirst]
      split
      · exact List.forall_mem_cons.2 ⟨hm, hes⟩
      · exact List.forall_mem_cons.2 ⟨he, ih hes⟩

variable {t : MapperTable}

theorem Distinct.insert (h : t.Distinct) (m : Mapper) : (t.insert m).2.Distinct := by
  rw [MapperTable.insert]
  split
  · exact h
  · next huniversal =>
    have hm : m.handles.isUniversal = false := Bool.eq_false_iff.2 huniversal
    split
    -- the mapper takes the place of one for a kind with the same name
    · have hnames := map_name_replaceFirst m t.entries
      exact ⟨forall_kinds_replaceFirst hm h.not_universal, hnames.symm ▸ h.nodup⟩
    · next hfree =>
      have hperm : (kinds ⟨place m t.entries⟩).Perm (m.handles :: t.kinds) :=
        (perm_place m t.entries).map Mapper.handles
      refine ⟨fun k hk => ?_, (hperm.map FailureKind.name).nodup_iff.2 ?_⟩
      · rcases List.mem_cons.1 (hperm.subset hk) with rfl | hk
        · exact hm
        · exact h.not_universal k hk
      · refine List.nodup_cons.2 ⟨fun hmem => hfree ?_, h.nodup⟩
        obtain ⟨k, hk, hname⟩ := List.mem_map.1 hmem
        obtain ⟨e, he, rfl⟩ := mem_kinds.1 hk
        refine List.any_eq_true.2 ⟨e, he, ?_⟩
        simp [FailureKind.same, hname, hm, h.not_universal e.handles hk]

theorem Distinct.remove (h : t.Distinct) (k : FailureKind) : (t.remove k).2.Distinct := by
  rw [MapperTable.remove]
  split
  · have hsub : (kinds ⟨t.entries.eraseP fun e => e.handles.same k⟩).Sublist t.kinds :=
      List.eraseP_sublist.map Mapper.handles
    exact ⟨fun j hj => h.not_universal j (hsub.subset hj), h.nodup.sublist (hsub.map _)⟩
  · exact h

theorem Distinct.foldl_insert (h : t.Distinct) (ms : List Mapper) :
    (ms.foldl (fun t m => (t.insert m).2) t).Distinct := by
  induction ms generalizing t with
  | nil => exact h
  | cons m ms ih => exact ih (h.insert m)

end MapperTable

/-! ### What the services declare -/

namespace ServiceMetadata

variable {σ : Type}

theorem mem_insertSorted {s t : ValueType} {us : List ValueType} :
    s ∈ ValueType.insertSorted t us ↔ s = t ∨ s ∈ us := by
  induction us with
  | nil => simp [ValueType.insertSorted]
  | cons u us ih =>
      rw [ValueType.insertSorted]
      split
      · next heq =>
        subst heq
        simp
      · split
        · exact List.mem_cons
        · rw [List.mem_cons, ih, List.mem_cons, or_left_comm]

theorem mem_sorted {t : ValueType} {ts : List ValueType} : t ∈ sorted ts ↔ t ∈ ts := by
  have hfold : ∀ (ts acc : List ValueType),
      t ∈ ts.foldl (fun acc t => ValueType.insertSorted t acc) acc ↔ t ∈ acc ∨ t ∈ ts := by
    intro ts
    induction ts with
    | nil => simp
    | cons u ts ih =>
        intro acc
        rw [List.foldl_cons, ih, mem_insertSorted, List.mem_cons, or_comm (a := t = u), or_assoc]
  rw [sorted, hfold]
  simp

theorem not_contains_sorted (declared : Service σ → List ValueType) (services : List (Service σ))
    (key : ValueType) : (!(sorted (services.flatMap declared)).contains key) =
      decide (∀ service ∈ services, key ∉ declared service) := by
  rw [Bool.eq_iff_iff, Bool.not_eq_true', ← Bool.not_eq_true, List.contains_iff_mem, mem_sorted,
    List.mem_flatMap]
  simp

end ServiceMetadata

namespace Snapshot

variable {σ : Type} {s next : Snapshot σ}

/-- The derived parts are those of the services and filters, and nothing is registered twice under
a filter key or a kind of failures. -/
structure Coherent (s : Snapshot σ) : Prop where
  metadata : s.metadata = ServiceMetadata.scan s.services
  globalRequestFilters : s.globalRequestFilters = s.requestFilters.filter fun f =>
    ∀ service ∈ Table.values s.services, f.1 ∉ service.requestFilters
  globalResponseFilters : s.globalResponseFilters = s.responseFilters.filter fun f =>
    ∀ service ∈ Table.values s.services, f.1 ∉ service.responseFilters
  requestKeys : s.requestFilters.keys.Nodup
  responseKeys : s.responseFilters.keys.Nodup
  mappers : s.mappers.Distinct

theorem coherent_initial : (initial : Snapshot σ).Coherent where
  metadata := rfl
  globalRequestFilters := rfl
  globalResponseFilters := rfl
  requestKeys := List.nodup_nil
  responseKeys := List.nodup_nil
  mappers := by
    have hempty : ({} : MapperTable).Distinct := ⟨by simp [MapperTable.kinds], List.nodup_nil⟩
    exact hempty.insert .standard

/-- Whatever the derived parts were, publishing makes them right. -/
theorem coherent_publish (hrequest : s.requestFilters.keys.Nodup)
    (hresponse : s.responseFilters.keys.Nodup) (hmappers : s.mappers.Distinct) :
    s.publish.Coherent where
  metadata := rfl
  globalRequestFilters := List.filter_congr fun f _ =>
    ServiceMetadata.not_contains_sorted Service.requestFilters _ f.1
  globalResponseFilters := List.filter_congr fun f _ =>
    ServiceMetadata.not_contains_sorted Service.responseFilters _ f.1
  requestKeys := hrequest
  responseKeys := hresponse
  mappers := hmappers

theorem Coherent.publish (h : s.Coherent) (change : Change s next) : next.publish.Coherent := by
  cases change with
  | services | providers | interceptors | converters =>
    exact coherent_publish h.requestKeys h.responseKeys h.mappers
  | requestFilterAdded key filter =>
    exact coherent_publish (FilterList.nodup_register key filter h.requestKeys) h.responseKeys
      h.mappers
  | requestFilterRemoved key =>
    exact coherent_publish (FilterList.nodup_remove key h.requestKeys) h.responseKeys h.mappers
  | responseFilterAdded key filter =>
    exact coherent_publish h.requestKeys (FilterList.nodup_register key filter h.responseKeys)
      h.mappers
  | responseFilterRemoved key =>
    exact coherent_publish h.requestKeys (FilterList.nodup_remove key h.responseKeys) h.mappers
  | mappersAdded ms =>
    exact coherent_publish h.requestKeys h.responseKeys (h.mappers.foldl_insert ms)
  | mapperRemoved kind =>
    exact coherent_publish h.requestKeys h.responseKeys (h.mappers.remove kind)

theorem Change.version_publish (change : Change s next) :
    next.publish.version = s.version + 1 := by
  cases change <;> rfl

theorem Published.eq_or_version (h : Published s next) :
    next = s ∨ next.version = s.version + 1 := by
  cases h with
  | unchanged => exact .inl rfl
  | changed change => exact .inr change.version_publish

end Snapshot

namespace Registry

variable {σ : Type}

/-- After every history of calls the snapshot is coherent, with the filters in the order of the
calls that registered them, and the next call leaves it or publishes the next version. -/
theorem coherent_run (config : DispatchConfig) (ops : List (RegistryOp σ)) (app : σ) :
    let r := (run ops { config } app).1
    r.snapshot.Coherent ∧
      r.snapshot.requestFilters =
        KeyedCall.standing [] (ops.flatMap RegistryOp.requestFilterCalls) ∧
      r.snapshot.responseFilters =
        KeyedCall.standing [] (ops.flatMap RegistryOp.responseFilterCalls) ∧
      ∀ (op : RegistryOp σ) (app : σ), (op.apply r app).1.snapshot = r.snapshot ∨
        (op.apply r app).1.snapshot.version = r.snapshot.version + 1 := by
  have hrequest := part_run_of_call requestFilters_apply ops { config } app
  have hresponse := part_run_of_call responseFilters_apply ops { config } app
  refine ⟨?_, hrequest.trans (FilterList.foldl_step _), hresponse.trans (FilterList.foldl_step _),
    fun op app => (published_apply _ app op).eq_or_version⟩
  exact snapshot_run_of_change (fun change h => h.publish change) ops app Snapshot.coherent_initial

end Registry

end ServiceDispatch
