import ServiceDispatch.Proofs.Context
import ServiceDispatch.Proofs.Data.FirstCome
import ServiceDispatch.Proofs.Registry.Batches

/-!
# Registrations by history

What a registry holds can be read off the calls that were made to it. Providers and filters are kept
by the first call for their key since the key was last removed, and the filters stand in the order
of these calls. A path has the service that was last added under it, unless that instance was
removed since, whatever stood there before. Each call changes a single table.
-/

namespace ServiceDispatch

variable {σ : Type}

/-! ### Calls by table -/

namespace RegistryOp

/-- What the call does to the providers. -/
def providerCalls : RegistryOp σ → List (KeyedCall ContextKey (Provider σ))
  | addProvider p => [.add p.key p]
  | removeProvider key => [.remove key]
  | _ => []

/-- What the call does to the request filters. -/
def requestFilterCalls : RegistryOp σ → List (KeyedCall ValueType (RequestFilter σ))
  | addRequestFilter key filter => [.add key filter]
  | removeRequestFilter key => [.remove key]
  | _ => []

/-- What the call does to the response filters. -/
def responseFilterCalls : RegistryOp σ → List (KeyedCall ValueType (ResponseFilter σ))
  | addResponseFilter key filter => [.add key filter]
  | removeResponseFilter key => [.remove key]
  | _ => []

end RegistryOp

/-- A call that puts a service under a path, or takes an instance from every path. -/
inductive ServiceCall (σ : Type) where
  | add (path : String) (service : Service σ)
  | remove (service : Service σ)

/-- What the call does to the services, by what it gives back: a batch that is refused and a service
whose first hook fails are not added. -/
def RegistryOp.serviceCalls : RegistryOp σ → RegistryAnswer σ → List (ServiceCall σ)
  | addService path service, _ => [.add path service]
  | addServices services, .tried (.ok ()) =>
    services.filterMap fun s => s.basePath.map fun path => .add path s
  | removeService service, _ => [.remove service]
  | deploy path service, .tried (.ok ()) => [.add path service]
  | undeploy service, _ => [.remove service]
  | _, _ => []

/-! ### Filters -/

namespace FilterList

variable {φ : Type}

/-- What a call does to a list of filters. -/
def step (fs : FilterList φ) : KeyedCall ValueType φ → FilterList φ
  | .add key filter => (fs.register key filter).2
  | .remove key => (fs.remove key).2

theorem contains_eq_isSome (key : ValueType) (fs : FilterList φ) :
    contains key fs = (fs.find? key).isSome := by
  rw [contains, find?, Option.isSome_map, Bool.eq_iff_iff, List.find?_isSome, List.any_eq_true]

theorem register_eq_true_iff {key : ValueType} {filter : φ} {fs : FilterList φ} :
    (register key filter fs).1 = true ↔ find? key fs = none := by
  rw [register, contains_eq_isSome]
  cases find? key fs <;> simp

theorem find?_register (key : ValueType) (filter : φ) (fs : FilterList φ) (k : ValueType) :
    find? k (register key filter fs).2 =
      (find? k fs).or (if key = k then some filter else none) := by
  rw [register, contains_eq_isSome]
  by_cases hk : key = k
  · subst hk
    rw [if_pos rfl]
    cases hfound : find? key fs with
    | some f => exact hfound
    | none =>
        rw [find?, Option.map_eq_none_iff] at hfound
        simp [find?, hfound]
  · rw [if_neg hk, Option.or_none]
    split
    · rfl
    · simp [find?, hk]

theorem find?_remove (key : ValueType) (fs : FilterList φ) (k : ValueType) :
    find? k (remove key fs).2 = if key = k then none else find? k fs := by
  rw [remove, find?, List.find?_filter]
  split
  · next hk =>
    rw [List.find?_eq_none.2 fun f _ => by simp [hk], Option.map_none]
  · next hk =>
    have hsame : (fun f : ValueType × φ => decide ((f.1 != key) = true ∧ (f.1 == k) = true)) =
        fun f => f.1 == k := by
      funext f
      by_cases hf : f.1 = k
      · simp [hf, Ne.symm hk]
      · simp [hf]
    rw [hsame, find?]

theorem firstComes : KeyedCall.FirstComes (fun (fs : FilterList φ) key => fs.find? key) step where
  add fs j filter key := find?_register j filter fs key
  remove fs j key := find?_remove j fs key

theorem find?_foldl_step (calls : List (KeyedCall ValueType φ)) (key : ValueType) :
    find? key (calls.foldl step []) = KeyedCall.first? key calls :=
  firstComes.look_foldl (fun _ => rfl) calls key

/-- The filters stand in the order of the calls that have come first. -/
theorem foldl_step (calls : List (KeyedCall ValueType φ)) :
    calls.foldl step [] = KeyedCall.standing [] calls := by
  -- from the end, because whether a call adds is told by the calls before it
  induction calls using List.reverseRecOn with
  | nil => rfl
  | append_singleton calls call ih =>
      rw [List.foldl_append, List.foldl_cons, List.foldl_nil]
      cases call with
      | add key filter =>
          rw [KeyedCall.standing_append_add, ← ih, List.nil_append, ← find?_foldl_step, step,
            register, contains_eq_isSome]
          cases find? key (calls.foldl step []) <;> simp
      | remove key =>
          rw [KeyedCall.standing_append_remove, ← ih]
          exact List.filter_congr fun f _ => by rw [Bool.eq_iff_iff, bne_iff_ne, decide_eq_true_iff]

/-- A list of filters that some calls have made, and what a further call is told. -/
theorem by_history {calls : List (KeyedCall ValueType φ)} {fs : FilterList φ}
    (h : fs = calls.foldl step []) : fs = KeyedCall.standing [] calls ∧
      (∀ key, find? key fs = KeyedCall.first? key calls) ∧
      ∀ key filter, (register key filter fs).1 = true ↔ KeyedCall.first? key calls = none := by
  have hfind (key : ValueType) : find? key fs = KeyedCall.first? key calls := by
    rw [h, find?_foldl_step]
  refine ⟨h.trans (foldl_step calls), hfind, fun key filter => ?_⟩
  rw [register_eq_true_iff, hfind]

end FilterList

/-! ### Providers -/

/-- What a call does to a table of providers. -/
def providerStep (t : Table (Provider σ)) : KeyedCall ContextKey (Provider σ) → Table (Provider σ)
  | .add key p => if (Table.get? key.text t).isSome then t else Table.insert key.text p t
  | .remove key => Table.erase key.text t

theorem firstComes_providerStep : KeyedCall.FirstComes
    (fun (t : Table (Provider σ)) (key : ContextKey) => Table.get? key.text t) providerStep where
  add t j p key := by
    by_cases hj : j = key
    · subst hj
      rw [providerStep, if_pos rfl]
      cases hold : Table.get? j.text t with
      | none => exact Table.get?_insert_self j.text p t
      | some old => exact hold
    · have htext : j.text ≠ key.text := fun htext => hj (ContextKey.text_inj.1 htext)
      rw [providerStep, if_neg hj, Option.or_none]
      split
      · rfl
      · exact Table.get?_insert_of_ne p t htext
  remove t j key := by
    rw [providerStep]
    by_cases hj : j = key
    · rw [if_pos hj, hj, Table.get?_erase_self]
    · rw [if_neg hj, Table.get?_erase_of_ne t fun htext => hj (ContextKey.text_inj.1 htext)]

/-! ### Services -/

namespace ServiceCall

/-- The service that the call puts under a path. -/
def added? (path : String) : ServiceCall σ → Option (Service σ)
  | add p service => if p = path then some service else none
  | remove _ => none

def removes (service : Service σ) : ServiceCall σ → Bool
  | add _ _ => false
  | remove s => s.isSame service

/-- The calls since a service was last put under a path. -/
def since (path : String) (calls : List (ServiceCall σ)) : List (ServiceCall σ) :=
  calls.rtakeWhile fun call => (call.added? path).isNone

/-- The service that was put last under a path, unless that instance was removed since. -/
def resident? (path : String) (calls : List (ServiceCall σ)) : Option (Service σ) :=
  (calls.filterMap (added? path)).getLast?.filter fun service =>
    !(since path calls).any (removes service)

theorem resident?_append_of_some {path : String} (calls : List (ServiceCall σ))
    {call : ServiceCall σ} {service : Service σ} (h : call.added? path = some service) :
    resident? path (calls ++ [call]) = some service := by
  rw [resident?, since, List.rtakeWhile_concat_neg _ _ _ (by simp [h]), List.filterMap_append,
    List.filterMap_cons_some h, List.filterMap_nil, List.getLast?_concat]
  rfl

theorem resident?_append_of_none {path : String} (calls : List (ServiceCall σ))
    {call : ServiceCall σ} (h : call.added? path = none) : resident? path (calls ++ [call]) =
      (resident? path calls).filter fun service => !call.removes service := by
  rw [resident?, since, List.rtakeWhile_concat_pos _ _ _ (by simp [h]), List.filterMap_append,
    List.filterMap_cons_none h, List.filterMap_nil, List.append_nil, resident?,
    Option.filter_filter]
  simp only [List.any_append, since, List.any_cons, List.any_nil, Bool.or_false, Bool.not_or]

/-- What a call does to a table of services. -/
def step (services : Table (Service σ)) : ServiceCall σ → Table (Service σ)
  | add path service => Table.insert path service services
  | remove service => services.filter fun e => !service.isSame e.2

theorem ordered_foldl_step (calls : List (ServiceCall σ)) :
    Table.Ordered (calls.foldl step []) := by
  induction calls using List.reverseRecOn with
  | nil => exact Table.ordered_nil
  | append_singleton calls call ih =>
      rw [List.foldl_append, List.foldl_cons, List.foldl_nil]
      cases call with
      | add path service => exact Table.ordered_insert path service ih
      | remove service => exact Table.ordered_filter _ ih

theorem get?_foldl_step (path : String) (calls : List (ServiceCall σ)) :
    Table.get? path (calls.foldl step []) = resident? path calls := by
  induction calls using List.reverseRecOn with
  | nil => rfl
  | append_singleton calls call ih =>
      rw [List.foldl_append, List.foldl_cons, List.foldl_nil]
      cases call with
      | add p service =>
          rw [step, Table.get?_insert, ih]
          split
          · next hp =>
            have hadded : (add p service).added? path = some service := if_pos hp
            rw [resident?_append_of_some calls hadded]
          · next hp =>
            have hadded : (add p service).added? path = none := if_neg hp
            rw [resident?_append_of_none calls hadded]
            cases resident? path calls <;> rfl
      | remove service =>
          rw [step, Table.get?_filter path (ordered_foldl_step calls), ih,
            resident?_append_of_none calls rfl]
          rfl

end ServiceCall

namespace Registry

theorem providers_apply (r : Registry σ) (app : σ) (op : RegistryOp σ) :
    (op.apply r app).1.snapshot.providers =
      op.providerCalls.foldl providerStep r.snapshot.providers := by
  cases op with
  | addProvider p =>
      rw [RegistryOp.apply, addProvider, snapshot_update, RegistryOp.providerCalls, List.foldl_cons,
        List.foldl_nil, providerStep, Snapshot.provider?]
      split <;> rfl
  | removeProvider key => rfl
  | _ => exact (sameBut_apply r app _).providers (by rintro ⟨⟩)

theorem addProvider_eq_true_iff {p : Provider σ} {r : Registry σ} :
    (r.addProvider p).1 = true ↔ r.snapshot.provider? p.key = none := by
  rw [addProvider, update]
  cases r.snapshot.provider? p.key <;> simp

theorem requestFilters_apply (r : Registry σ) (app : σ) (op : RegistryOp σ) :
    (op.apply r app).1.snapshot.requestFilters =
      op.requestFilterCalls.foldl FilterList.step r.snapshot.requestFilters := by
  cases op with
  | addRequestFilter key filter => rfl
  | removeRequestFilter key => rfl
  | _ => exact (sameBut_apply r app _).requestFilters (by rintro ⟨⟩)

theorem responseFilters_apply (r : Registry σ) (app : σ) (op : RegistryOp σ) :
    (op.apply r app).1.snapshot.responseFilters =
      op.responseFilterCalls.foldl FilterList.step r.snapshot.responseFilters := by
  cases op with
  | addResponseFilter key filter => rfl
  | removeResponseFilter key => rfl
  | _ => exact (sameBut_apply r app _).responseFilters (by rintro ⟨⟩)

theorem services_apply (r : Registry σ) (app : σ) (op : RegistryOp σ) :
    (op.apply r app).1.snapshot.services =
      (op.serviceCalls (op.answer r app)).foldl ServiceCall.step r.snapshot.services := by
  cases op with
  | addService path service =>
      rw [RegistryOp.apply, snapshot_addService]
      rfl
  | addServices services =>
      rw [RegistryOp.apply, RegistryOp.answer, addServices_eq]
      cases hentries : services.mapM declaredPath with
      | error e => rfl
      | ok entries =>
          obtain ⟨rfl, hpaths⟩ := mapM_declaredPath_eq_ok_iff.1 hentries
          -- every service of an accepted batch asks for a path, so none is left out of the calls
          have hcalls : (RegistryOp.addServices (entries.map Prod.snd)).serviceCalls
              (.tried (.ok ())) = entries.map fun e => .add e.1 e.2 := by
            rw [RegistryOp.serviceCalls, List.filterMap_map, ← List.filterMap_eq_map]
            exact List.filterMap_congr fun e he => by simp [hpaths e he]
          rw [hcalls, snapshot_foldl_insert, List.foldl_map]
          rfl
  | removeService service =>
      rw [RegistryOp.apply, snapshot_removeService]
      rfl
  | deploy path service =>
      have hanswer : (r.deploy path service app).1 = (r.initService service app).1 := by
        rw [deploy]
        split <;> simp_all
      rw [RegistryOp.apply, snapshot_deploy, RegistryOp.answer, hanswer]
      cases (r.initService service app).1 <;> rfl
  | undeploy service =>
      rw [RegistryOp.apply, snapshot_undeploy, snapshot_removeService]
      rfl
  | _ => exact (sameBut_apply r app _).services (by rintro ⟨⟩)

/-- Whatever calls were made to a registry, a key has the provider or filter of the first call for
it since it was last removed, the filters stand in the order of these calls, and such a call alone
is told that it has registered something. What is removed is what stood there, and only a provider
that is removed is told so. A path has the service that was put there last, unless that instance was
removed since. No call changes a table but its own. -/
theorem registrations_by_history (config : DispatchConfig) (past : List (RegistryOp σ))
    (start : σ) :
    let r := (run past { config } start).1
    let providers := past.flatMap RegistryOp.providerCalls
    let requestFilters := past.flatMap RegistryOp.requestFilterCalls
    let responseFilters := past.flatMap RegistryOp.responseFilterCalls
    let services := (past.zip (answers past { config } start)).flatMap fun call =>
      call.1.serviceCalls call.2
    (∀ key, r.snapshot.provider? key = KeyedCall.first? key providers) ∧
      (∀ p, (r.addProvider p).1 = true ↔ KeyedCall.first? p.key providers = none) ∧
      (∀ key app, (r.removeProvider key app).1 = KeyedCall.first? key providers ∧
        (r.removeProvider key app).2.2 = match KeyedCall.first? key providers with
          | some p => p.onRemove app
          | none => app) ∧
      (r.snapshot.requestFilters = KeyedCall.standing [] requestFilters ∧
        (∀ key, r.snapshot.requestFilters.find? key = KeyedCall.first? key requestFilters) ∧
        ∀ key filter, (r.addRequestFilter key filter).1 = true ↔
          KeyedCall.first? key requestFilters = none) ∧
      (r.snapshot.responseFilters = KeyedCall.standing [] responseFilters ∧
        (∀ key, r.snapshot.responseFilters.find? key = KeyedCall.first? key responseFilters) ∧
        ∀ key filter, (r.addResponseFilter key filter).1 = true ↔
          KeyedCall.first? key responseFilters = none) ∧
      (∀ path, r.snapshot.serviceAt? path = ServiceCall.resident? path services) ∧
      ∀ (op : RegistryOp σ) (app : σ),
        Snapshot.SameBut op.part? r.snapshot (op.apply r app).1.snapshot := by
  intro r providers requestFilters responseFilters services
  have hprovider (key : ContextKey) :
      r.snapshot.provider? key = KeyedCall.first? key providers := by
    have hrun := part_run_of_call providers_apply past { config } start
    rw [Snapshot.provider?, hrun]
    exact firstComes_providerStep.look_foldl (fun _ => rfl) providers key
  have hrequest : r.snapshot.requestFilters = requestFilters.foldl FilterList.step [] :=
    part_run_of_call requestFilters_apply past { config } start
  have hresponse : r.snapshot.responseFilters = responseFilters.foldl FilterList.step [] :=
    part_run_of_call responseFilters_apply past { config } start
  have hservices : r.snapshot.services = services.foldl ServiceCall.step [] :=
    part_run RegistryOp.serviceCalls services_apply past { config } start
  refine ⟨hprovider, fun p => ?_, fun key app => ?_, FilterList.by_history hrequest,
    FilterList.by_history hresponse, fun path => ?_, fun op app => sameBut_apply r app op⟩
  · rw [addProvider_eq_true_iff, hprovider]
  · rw [← hprovider]
    exact ⟨rfl, rfl⟩
  · rw [Snapshot.serviceAt?, hservices, ServiceCall.get?_foldl_step]

end Registry

end ServiceDispatch
