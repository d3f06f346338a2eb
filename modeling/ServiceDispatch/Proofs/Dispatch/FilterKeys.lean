import ServiceDispatch.Proofs.Dispatch.Stages
import ServiceDispatch.Proofs.Registry.Coherent

/-!
# How often a filter runs

A call passes the global filters and then those that its own service declares, so a filter is run
twice if both lists hold its key or the service declares it twice. A key that some registered
service declares is in no global list. Nothing else keeps the two lists apart: the service of a
model need not be registered, and then the key that it declares may be global.
-/

namespace ServiceDispatch

open CallbackRun

namespace FilterList

variable {φ : Type}

/-- The filters that a call passes, by their keys: the global ones and those that are declared and
registered. -/
def passed (global registered : FilterList φ) (declared : List ValueType) : FilterList φ :=
  global ++ declared.filterMap fun key => (find? key registered).map fun filter => (key, filter)

variable {global registered : FilterList φ} {declared : List ValueType}

theorem map_snd_passed : (passed global registered declared).map Prod.snd =
    global.map Prod.snd ++ declared.filterMap fun key => registered.lookup key := by
  rw [passed, List.map_append, List.map_filterMap]
  congr 2
  funext key
  rw [find?_eq_lookup]
  cases registered.lookup key <;> rfl

theorem keys_declared : keys (declared.filterMap fun key =>
    (find? key registered).map fun filter => (key, filter)) =
      declared.filter fun key => contains key registered := by
  induction declared with
  | nil => rfl
  | cons key declared ih =>
      rw [List.filterMap_cons, List.filter_cons, contains_eq_isSome]
      cases find? key registered with
      | none => exact ih
      | some filter => exact congrArg (List.cons key) ih

theorem keys_filter (p : ValueType → Bool) :
    keys (registered.filter fun f => p f.1) = registered.keys.filter p :=
  List.filter_map.symm

/-- A registered key is passed once if it is global and once for each time that it is declared. -/
theorem count_keys_passed (h : registered.keys.Nodup) (p : ValueType → Bool) {key : ValueType}
    (hkey : key ∈ registered.keys) :
    (keys (passed (registered.filter fun f => p f.1) registered declared)).count key =
      (if p key then 1 else 0) + declared.count key := by
  have hglobal : (registered.keys.filter p).count key = if p key then 1 else 0 := by
    split
    · next hp => rw [List.count_filter hp, List.count_eq_one_of_mem h hkey]
    · next hp => exact List.count_eq_zero.2 fun hmem => hp (List.mem_filter.1 hmem).2
  have hdeclared : (declared.filter fun key => contains key registered).count key =
      declared.count key := List.count_filter (contains_iff.2 hkey)
  rw [passed, keys, List.map_append, List.count_append]
  exact congrArg₂ _ ((congrArg _ (keys_filter p)).trans hglobal)
    ((congrArg _ keys_declared).trans hdeclared)

theorem mem_keys_of_mem_passed (p : ValueType → Bool) {key : ValueType}
    (hkey : key ∈ keys (passed (registered.filter fun f => p f.1) registered declared)) :
    key ∈ registered.keys := by
  rw [passed, keys, List.map_append, List.mem_append] at hkey
  rcases hkey with hkey | hkey
  · have hkey : key ∈ registered.keys.filter p := keys_filter p ▸ hkey
    exact (List.mem_filter.1 hkey).1
  · have hkey : key ∈ declared.filter fun key => contains key registered := keys_declared ▸ hkey
    exact contains_iff.1 (List.mem_filter.1 hkey).2

end FilterList

variable {σ : Type}

/-- How the filters that a call to a service passes are run, where services declare some and others
are registered. -/
structure RunByKey {φ α ε : Type} (declared : Service σ → List ValueType)
    (services : List (Service σ)) (service : Service σ) (registered passed : FilterList φ)
    (runs : List (CallbackRun φ α ε)) : Prop where
  /-- The first of them run. -/
  callbacks : runs.map callback = (passed.take runs.length).map Prod.snd
  /-- Each registered key stands once among them if no registered service declares it, and once
  more for each time that the service itself does. -/
  count : ∀ key ∈ registered.keys, passed.keys.count key =
    (if ∃ other ∈ services, key ∈ declared other then 0 else 1) + (declared service).count key
  /-- No key runs twice that the service declares at most once, and only if some registered service
  declares it. -/
  once : ∀ key, (declared service).count key ≤ 1 →
    (key ∈ declared service → ∃ other ∈ services, key ∈ declared other) →
      (FilterList.keys (passed.take runs.length)).count key ≤ 1

theorem runByKey {φ α ε : Type} {declared : Service σ → List ValueType}
    {services : List (Service σ)} {service : Service σ} {registered global : FilterList φ}
    {act : φ → α → ε × α} {goesOn : ε → Bool} {a : α} {runs : List (CallbackRun φ α ε)}
    (hkeys : registered.keys.Nodup)
    (hglobal : global = registered.filter fun f => ∀ s ∈ services, f.1 ∉ declared s)
    (hruns : InOrder act goesOn (global.map Prod.snd ++
      (declared service).filterMap fun key => registered.lookup key) a runs) :
    RunByKey declared services service registered
      (FilterList.passed global registered (declared service)) runs := by
  have hcount : ∀ key ∈ registered.keys,
      (FilterList.passed global registered (declared service)).keys.count key =
        (if ∃ other ∈ services, key ∈ declared other then 0 else 1) +
          (declared service).count key := by
    intro key hkey
    rw [hglobal, FilterList.count_keys_passed hkeys
      (fun key => decide (∀ s ∈ services, key ∉ declared s)) hkey]
    by_cases hother : ∃ other ∈ services, key ∈ declared other
    · rw [if_pos hother, if_neg (by simpa using hother)]
    · rw [if_neg hother, if_pos (by simpa using hother)]
  refine ⟨?_, hcount, fun key hself hother => ?_⟩
  · rw [← FilterList.map_snd_passed] at hruns
    rw [hruns.map_callback, List.map_take]
  · have hle : (FilterList.keys ((FilterList.passed global registered (declared service)).take
        runs.length)).count key ≤
          (FilterList.passed global registered (declared service)).keys.count key :=
      ((List.take_sublist _ _).map Prod.fst).count_le key
    refine hle.trans ?_
    by_cases hkey : key ∈ registered.keys
    · rw [hcount key hkey]
      by_cases hmem : key ∈ declared service
      · rw [if_pos (hother hmem), Nat.zero_add]
        exact hself
      · rw [List.count_eq_zero.2 hmem, Nat.add_zero]
        split <;> decide
    · have hout : key ∉ (FilterList.passed global registered (declared service)).keys :=
        fun hmem => hkey (FilterList.mem_keys_of_mem_passed
          (fun key => decide (∀ s ∈ services, key ∉ declared s)) (hglobal ▸ hmem))
      rw [List.count_eq_zero.2 hout]
      exact Nat.zero_le 1

namespace Snapshot

/-- The request filters that a call to a service passes, by their keys. -/
def requestEntriesFor (s : Snapshot σ) (service : Service σ) : FilterList (RequestFilter σ) :=
  FilterList.passed s.globalRequestFilters s.requestFilters service.requestFilters

/-- The response filters that a call to a service passes, by their keys. -/
def responseEntriesFor (s : Snapshot σ) (service : Service σ) : FilterList (ResponseFilter σ) :=
  FilterList.passed s.globalResponseFilters s.responseFilters service.responseFilters

end Snapshot

namespace Dispatch

/-- After every history of a registry, a call runs no filter twice whose key the service of the
model declares at most once, and only if some registered service declares it. -/
theorem filters_run_by_key (config : DispatchConfig) (ops : List (RegistryOp σ)) (app : σ)
    (model : ResourceModel σ) (request : Request) (captures : Table String) (sink : Sink)
    (w : World σ) :
    let r := (Registry.run ops { config } app).1
    let services := Table.values r.snapshot.services
    ∃ t : Trace σ, t.Follows (scope r model request captures) ⟨w.app, w.fields, sink⟩ w.disk ∧
      RunByKey Service.requestFilters services model.service r.snapshot.requestFilters
        (r.snapshot.requestEntriesFor model.service) t.requestFilters ∧
      RunByKey Service.responseFilters services model.service r.snapshot.responseFilters
        (r.snapshot.responseEntriesFor model.service) t.responseFilters := by
  intro r services
  have hcoherent : r.snapshot.Coherent :=
    Registry.snapshot_run_of_change (fun change h => h.publish change) ops app
      Snapshot.coherent_initial
  have hfollows := (Trace.follows_of (scope r model request captures) ⟨w.app, w.fields, sink⟩
    w.disk).1
  exact ⟨_, hfollows,
    runByKey hcoherent.requestKeys hcoherent.globalRequestFilters hfollows.requestFilters,
    runByKey hcoherent.responseKeys hcoherent.globalResponseFilters hfollows.responseFilters⟩

/-- A filter that counts its runs. -/
def countsRuns : RequestFilter Nat := fun _ st => (.ok .proceed, { st with app := st.app + 1 })

/-- A method of a service that declares a filter. -/
def declaresFilter (key : ValueType) : ResourceModel Nat where
  name := "get"
  service := { id := 1, name := "S", requestFilters := [key] }
  handler := fun _ _ st => (.ok .empty, st)

/-- The service that declares the filter is not registered, so the filter is global, too. -/
theorem runs_twice_unregistered :
    let key := ValueType.declared "Auth"
    let r := (Registry.run [.addRequestFilter key countsRuns] {} 0).1
    let model := declaresFilter key
    let request : Request := { method := "GET", uri := "/" }
    key ∈ r.snapshot.requestFilters.keys ∧
      (run r model request [] { app := 0 }).2.app = 2 ∧
      ∃ t : Trace Nat, t.Follows (scope r model request []) ⟨0, [], {}⟩ {} ∧
        (FilterList.keys ((r.snapshot.requestEntriesFor model.service).take
          t.requestFilters.length)).count key = 2 :=
  ⟨by decide, by decide +kernel, _, (Trace.follows_of _ _ _).1, by decide +kernel⟩

end Dispatch

end ServiceDispatch
