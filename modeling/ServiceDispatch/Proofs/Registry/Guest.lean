import ServiceDispatch.Proofs.Registry.HookRuns

/-!
# A service that comes and goes

A service is registered at a path that is free, other things are done to the registry, and the
service is removed. `Hosts` compares that registry with one to which only the other things are
done: the snapshots differ as if the guest had been added last. Every call that spares the guest and
its path keeps this and gives back the same to both, whether it publishes a snapshot or not.

Most calls are `Apart` from the services: they change a part of the snapshot that is neither the
services nor made of them, and look at nothing else. The derived parts need no argument of their
own, as every publication makes them anew.
-/

namespace ServiceDispatch

variable {σ : Type}

/-- The call is about neither the path nor the instance, and not about all services. -/
def RegistryOp.Spares (path : String) (guest : Service σ) : RegistryOp σ → Prop
  | addService other service | deploy other service => other ≠ path ∧ service.id ≠ guest.id
  | addServices services =>
    ∀ service ∈ services, service.basePath ≠ some path ∧ service.id ≠ guest.id
  | removeService service | undeploy service | initService service | preDestroyService service =>
    service.id ≠ guest.id
  | initServices | preDestroyServices => False
  | _ => True

namespace Snapshot

/-- The snapshot with the version and the services of another, and with what follows from them. -/
def serving (s t : Snapshot σ) : Snapshot σ :=
  { s with
    version := t.version
    services := t.services
    metadata := t.metadata
    globalRequestFilters := t.globalRequestFilters
    globalResponseFilters := t.globalResponseFilters }

/-- The change does not depend on the services and leaves them alone. -/
def Apart {α : Type} (change : Snapshot σ → α × Snapshot σ) : Prop :=
  ∀ s t, change (s.serving t) = ((change s).1, (change s).2.serving t)

variable {α : Type} {change : Snapshot σ → α × Snapshot σ}

theorem Apart.snd_eq (h : Apart change) (s : Snapshot σ) : (change s).2 = (change s).2.serving s :=
  congrArg Prod.snd (h s s)

end Snapshot

namespace Registry

open Snapshot (Apart)

/-! ### Services in order -/

theorem snapshot_foldl_insert (entries : List (String × Service σ)) (r : Registry σ) :
    (r.store entries).snapshot.services =
      entries.foldl (fun t e => Table.insert e.1 e.2 t) r.snapshot.services := by
  rw [snapshot_store]
  rfl

theorem ordered_store (entries : List (String × Service σ)) {r : Registry σ}
    (h : Table.Ordered r.snapshot.services) :
    Table.Ordered (r.store entries).snapshot.services := by
  rw [snapshot_foldl_insert]
  exact Table.ordered_foldl_insert Prod.fst Prod.snd entries h

theorem ordered_removeService (service : Service σ) {r : Registry σ}
    (h : Table.Ordered r.snapshot.services) :
    Table.Ordered (r.removeService service).2.snapshot.services := by
  rw [snapshot_removeService]
  exact Table.ordered_filter _ h

theorem ordered_apply {r : Registry σ} (app : σ) (op : RegistryOp σ)
    (h : Table.Ordered r.snapshot.services) :
    Table.Ordered (op.apply r app).1.snapshot.services := by
  have hsame := sameBut_apply r app op
  cases op with
  | addService path service =>
      rw [RegistryOp.apply, addService_eq]
      exact ordered_store _ h
  | addServices services =>
      rw [RegistryOp.apply, addServices_eq]
      split
      · exact h
      · exact ordered_store _ h
  | removeService service => exact ordered_removeService service h
  | deploy path service =>
      rw [RegistryOp.apply, snapshot_deploy]
      split
      · exact h
      · exact Table.ordered_insert path service h
  | undeploy service =>
      rw [RegistryOp.apply, snapshot_undeploy]
      exact ordered_removeService service h
  | _ => rwa [hsame.services (by rintro ⟨⟩)]

theorem ordered_run {r : Registry σ} (app : σ) (ops : List (RegistryOp σ))
    (h : Table.Ordered r.snapshot.services) :
    Table.Ordered (run ops r app).1.snapshot.services := by
  induction ops generalizing r app with
  | nil => exact h
  | cons op ops ih =>
      rw [run_cons]
      exact ih _ (ordered_apply app op h)

/-! ### Two registries side by side -/

/-- The path is free and the instance is not registered. -/
structure Vacant (path : String) (guest : Service σ) (services : Table (Service σ)) : Prop where
  ordered : Table.Ordered services
  free : Table.get? path services = none
  absent : ∀ s ∈ Table.values services, s.id ≠ guest.id

/-- The second registry is the first with a guest at a free path, whenever the guest came. -/
structure Hosts (path : String) (guest : Service σ) (r r' : Registry σ) : Prop where
  vacant : Vacant path guest r.snapshot.services
  snapshot : r'.snapshot = (r.addService path guest).snapshot
  initialized : ∀ id, id ≠ guest.id → r'.initialized.contains id = r.initialized.contains id

variable {path : String} {guest : Service σ} {r r' : Registry σ} {services : Table (Service σ)}

theorem Vacant.store (h : Vacant path guest services) {entries : List (String × Service σ)}
    (hentries : ∀ e ∈ entries, e.1 ≠ path ∧ e.2.id ≠ guest.id) :
    Vacant path guest (entries.foldl (fun t e => Table.insert e.1 e.2 t) services) where
  ordered := Table.ordered_foldl_insert Prod.fst Prod.snd entries h.ordered
  free := by
    have hnone : (entries.filter fun e => e.1 = path) = [] :=
      List.filter_eq_nil_iff.2 fun e he => by simpa using (hentries e he).1
    rw [Table.get?_foldl_insert Prod.fst Prod.snd, hnone]
    exact h.free
  absent s hs := by
    rcases Table.mem_values_foldl_insert hs with ⟨e, he, rfl⟩ | hs
    · exact (hentries e he).2
    · exact h.absent s hs

theorem Vacant.filter (h : Vacant path guest services) (p : String × Service σ → Bool) :
    Vacant path guest (services.filter p) where
  ordered := Table.ordered_filter p h.ordered
  free := by
    rw [Table.get?_filter path h.ordered, h.free]
    rfl
  absent s hs := h.absent s ((List.filter_sublist.map Prod.snd).subset hs)

theorem snapshot_addService_of_eq (hsnapshot : r'.snapshot = r.snapshot) :
    (r'.addService path guest).snapshot = (r.addService path guest).snapshot := by
  rw [snapshot_addService, hsnapshot, snapshot_addService]

/-- Among the others the guest is not seen. -/
theorem registers_iff_of_insert (h : Vacant path guest r.snapshot.services)
    (hservices : r'.snapshot.services = Table.insert path guest r.snapshot.services) {id : Nat}
    (hid : id ≠ guest.id) : r'.Registers id ↔ r.Registers id := by
  have hperm := (Table.perm_insert guest h.free).map Prod.snd
  rw [← hservices] at hperm
  have hmem (s : Service σ) : s ∈ r'.services ↔ s = guest ∨ s ∈ r.services :=
    hperm.mem_iff.trans List.mem_cons
  constructor
  · rintro ⟨s, hs, rfl⟩
    rcases (hmem s).1 hs with rfl | hs
    · exact absurd rfl hid
    · exact ⟨s, hs, rfl⟩
  · rintro ⟨s, hs, rfl⟩
    exact ⟨s, (hmem s).2 (.inr hs), rfl⟩

theorem Hosts.services_eq (h : Hosts path guest r r') :
    r'.snapshot.services = Table.insert path guest r.snapshot.services := by
  rw [h.snapshot, snapshot_addService]
  rfl

theorem Hosts.holds_eq (h : Hosts path guest r r') {s : Service σ} (hs : s.id ≠ guest.id) :
    r'.snapshot.holds s = r.snapshot.holds s := by
  rw [Bool.eq_iff_iff, holds_iff, holds_iff, registers_iff_of_insert h.vacant h.services_eq hs]

/-- The guest comes. -/
theorem hosts_addService (h : Vacant path guest r.snapshot.services) :
    Hosts path guest r (r.addService path guest) where
  vacant := h
  snapshot := rfl
  initialized id _ := by
    have hfree : r.snapshot.serviceAt? path = none := h.free
    simp only [addService, update, hfree]

/-- The guest goes. -/
theorem Hosts.snapshot_removeService_guest (h : Hosts path guest r r')
    (hrefresh : r.snapshot.refresh = r.snapshot) :
    (r'.removeService guest).1 = true ∧ (r'.removeService guest).2.snapshot =
      { r.snapshot with version := r.snapshot.version + 2 } := by
  have hheld : r'.Registers guest.id := by
    refine ⟨guest, ?_, rfl⟩
    rw [services, h.services_eq]
    exact Table.mem_values_insert_self path guest _
  refine ⟨holds_iff.2 hheld, ?_⟩
  have hgone : (!guest.isSame guest) = false := by simp [Service.isSame]
  have hothers : (r.snapshot.services.filter fun e => !guest.isSame e.2) = r.snapshot.services := by
    refine List.filter_eq_self.2 fun e he => ?_
    have hne := h.vacant.absent e.2 (List.mem_map_of_mem he)
    simpa [Service.isSame] using hne.symm
  rw [snapshot_removeService, h.services_eq,
    Table.filter_insert_of_neg h.vacant.ordered h.vacant.free hgone, hothers, h.snapshot,
    snapshot_addService]
  conv_rhs => rw [← hrefresh]
  rfl

/-! ### Calls that are about something else -/

/-- A call whose change is apart from the services. -/
theorem Hosts.update {α : Type} {change : Snapshot σ → α × Snapshot σ}
    (h : Hosts path guest r r') (hchange : Apart change) :
    (r'.update change).1 = (r.update change).1 ∧
      Hosts path guest (r.update change).2 (r'.update change).2 := by
  have hbefore : r'.snapshot = r.snapshot.serving r'.snapshot := by
    rw [h.snapshot, snapshot_addService]
    rfl
  have hafter : change r'.snapshot =
      ((change r.snapshot).1, (change r.snapshot).2.serving r'.snapshot) := by
    rw [hbefore]
    exact hchange _ _
  have hanswer : (change r'.snapshot).1 = (change r.snapshot).1 := by rw [hafter]
  have hkept := hchange.snd_eq r.snapshot
  have hservices : (r.update change).2.snapshot.services = r.snapshot.services := by
    rw [snapshot_update, hkept]
    rfl
  refine ⟨hanswer, hservices ▸ h.vacant, ?_, h.initialized⟩
  rw [snapshot_update, snapshot_addService, snapshot_update, hafter, h.snapshot,
    snapshot_addService, hkept]
  rfl

theorem apart_removeProvider (key : ContextKey) : Apart fun s : Snapshot σ =>
    (s.provider? key, { s with providers := Table.erase key.text s.providers }) :=
  fun _ _ => rfl

theorem apart_addProvider (p : Provider σ) : Apart fun s : Snapshot σ =>
    if (s.provider? p.key).isSome then (false, s)
    else (true, { s with providers := Table.insert p.key.text p s.providers }) := by
  intro s t
  have hprovider : (s.serving t).provider? p.key = s.provider? p.key := rfl
  dsimp only
  rw [hprovider]
  split <;> rfl

/-! ### Calls about other services -/

theorem replaced_insert {entries : List (String × Service σ)} (h : ∀ e ∈ entries, e.1 ≠ path)
    (ht : Table.Ordered services) :
    replaced entries (Table.insert path guest services) = replaced entries services := by
  induction entries generalizing services with
  | nil => rfl
  | cons e entries ih =>
      obtain ⟨he, hentries⟩ := List.forall_mem_cons.1 h
      rw [replaced, Table.get?_insert_of_ne guest services he.symm,
        Table.insert_comm he e.2 guest ht, ih hentries (Table.ordered_insert e.1 e.2 ht), replaced]

theorem Hosts.store (h : Hosts path guest r r') {entries : List (String × Service σ)}
    (hentries : ∀ e ∈ entries, e.1 ≠ path ∧ e.2.id ≠ guest.id) :
    Hosts path guest (r.store entries) (r'.store entries) := by
  have hpaths : ∀ e ∈ entries, e.1 ≠ path := fun e he => (hentries e he).1
  have hvacant : Vacant path guest (r.store entries).snapshot.services := by
    rw [snapshot_store]
    exact h.vacant.store hentries
  have hsnapshot : (r'.store entries).snapshot =
      ((r.store entries).addService path guest).snapshot := by
    rw [snapshot_store, withServices, h.services_eq,
      Table.foldl_insert_comm hpaths h.vacant.ordered, snapshot_addService, snapshot_store,
      h.snapshot, snapshot_addService]
    rfl
  have hservices := congrArg Snapshot.services hsnapshot
  rw [snapshot_addService] at hservices
  refine ⟨hvacant, hsnapshot, fun id hid => ?_⟩
  have hregisters := registers_iff_of_insert hvacant hservices hid
  rw [contains_store, contains_store, h.initialized id hid, h.services_eq,
    replaced_insert hpaths h.vacant.ordered]
  congr 2
  rw [Bool.eq_iff_iff]
  simp [hregisters]

theorem Hosts.removeService (h : Hosts path guest r r') {service : Service σ}
    (hservice : service.id ≠ guest.id) :
    (r'.removeService service).1 = (r.removeService service).1 ∧
      Hosts path guest (r.removeService service).2 (r'.removeService service).2 := by
  have hkept : (!service.isSame guest) = true := by simpa [Service.isSame] using hservice
  have hvacant : Vacant path guest (r.removeService service).2.snapshot.services := by
    rw [snapshot_removeService]
    exact h.vacant.filter _
  have hsnapshot : (r'.removeService service).2.snapshot =
      ((r.removeService service).2.addService path guest).snapshot := by
    rw [snapshot_removeService, h.services_eq, Table.filter_insert_of_pos h.vacant.ordered hkept,
      snapshot_addService, snapshot_removeService, h.snapshot, snapshot_addService]
    rfl
  refine ⟨h.holds_eq hservice, hvacant, hsnapshot, fun id hid => ?_⟩
  have hregisters := registers_iff_of_insert h.vacant h.services_eq hid
  rw [contains_removeService, contains_removeService, h.initialized id hid]
  simp only [hregisters]

theorem Hosts.forget (h : Hosts path guest r r') (service : Service σ) :
    Hosts path guest (r.forget service) (r'.forget service) where
  vacant := h.vacant
  snapshot := h.snapshot.trans (snapshot_addService_of_eq (snapshot_forget service r)).symm
  initialized id hid := by rw [contains_forget, contains_forget, h.initialized id hid]

theorem Hosts.initService (h : Hosts path guest r r') {service : Service σ}
    (hservice : service.id ≠ guest.id) (app : σ) :
    (r'.initService service app).1 = (r.initService service app).1 ∧
      (r'.initService service app).2.2 = (r.initService service app).2.2 ∧
      Hosts path guest (r.initService service app).2.1 (r'.initService service app).2.1 := by
  have hnoted := h.initialized service.id hservice
  have hanswer : (r'.initService service app).1 = (r.initService service app).1 ∧
      (r'.initService service app).2.2 = (r.initService service app).2.2 := by
    rw [Registry.initService, Registry.initService, hnoted]
    split
    · exact ⟨rfl, rfl⟩
    · split <;> exact ⟨rfl, rfl⟩
  have hsame := snapshot_initService service r app
  refine ⟨hanswer.1, hanswer.2, hsame ▸ h.vacant, ?_, fun id hid => ?_⟩
  · rw [snapshot_initService, snapshot_addService_of_eq hsame, h.snapshot]
  · rw [contains_initService, contains_initService, h.initialized id hid, hanswer.1]

theorem Hosts.addServices (h : Hosts path guest r r') {services : List (Service σ)}
    (hservices : ∀ s ∈ services, s.basePath ≠ some path ∧ s.id ≠ guest.id) :
    (r'.addServices services).1 = (r.addServices services).1 ∧
      Hosts path guest (r.addServices services).2 (r'.addServices services).2 := by
  rw [addServices_eq, addServices_eq]
  cases hentries : services.mapM declaredPath with
  | error e => exact ⟨rfl, h⟩
  | ok entries =>
      refine ⟨rfl, h.store fun e he => ?_⟩
      obtain ⟨s, hs, hpath⟩ := exists_of_mem_mapM hentries he
      rw [declaredPath] at hpath
      split at hpath
      · next asked hasked =>
        cases hpath
        obtain ⟨hbase, hother⟩ := hservices s hs
        exact ⟨fun heq => hbase (hasked.trans (congrArg some heq)), hother⟩
      · cases hpath

theorem Hosts.deploy (h : Hosts path guest r r') {other : String} {service : Service σ}
    (hother : other ≠ path) (hservice : service.id ≠ guest.id) (app : σ) :
    (r'.deploy other service app).1 = (r.deploy other service app).1 ∧
      (r'.deploy other service app).2.2 = (r.deploy other service app).2.2 ∧
      Hosts path guest (r.deploy other service app).2.1 (r'.deploy other service app).2.1 := by
  obtain ⟨hanswer, happ, hinit⟩ := h.initService hservice app
  rw [Registry.deploy, Registry.deploy]
  rcases hr : r.initService service app with ⟨e | _, r₁, app₁⟩ <;>
    rcases hr' : r'.initService service app with ⟨e' | _, r₁', app₁'⟩ <;>
    rw [hr, hr'] at hanswer happ hinit
  · exact ⟨hanswer, happ, hinit⟩
  · cases hanswer
  · cases hanswer
  · dsimp only
    rw [addService_eq, addService_eq]
    exact ⟨rfl, happ, hinit.store (by simpa using ⟨hother, hservice⟩)⟩

/-! ### All calls -/

theorem Hosts.apply_of_apart {α : Type} {change : Snapshot σ → α × Snapshot σ}
    (answer : α → RegistryAnswer σ) (next : α → σ) {op : RegistryOp σ} {app : σ}
    (h : Hosts path guest r r') (hchange : Apart change)
    (hanswer : ∀ r, op.answer r app = answer (r.update change).1)
    (happly : ∀ r, op.apply r app = ((r.update change).2, next (r.update change).1)) :
    op.answer r' app = op.answer r app ∧ (op.apply r' app).2 = (op.apply r app).2 ∧
      Hosts path guest (op.apply r app).1 (op.apply r' app).1 := by
  obtain ⟨hsame, hhosts⟩ := h.update hchange
  rw [hanswer, hanswer, happly, happly, hsame]
  exact ⟨rfl, rfl, hhosts⟩

/-- A call that spares the guest gives back the same to both registries, and they stay alike. -/
theorem Hosts.apply (h : Hosts path guest r r') {op : RegistryOp σ} (hop : op.Spares path guest)
    (app : σ) :
    op.answer r' app = op.answer r app ∧ (op.apply r' app).2 = (op.apply r app).2 ∧
      Hosts path guest (op.apply r app).1 (op.apply r' app).1 := by
  cases op with
  | addService other service =>
      rw [RegistryOp.apply, RegistryOp.apply, addService_eq, addService_eq]
      exact ⟨rfl, rfl, h.store fun e he => List.mem_singleton.1 he ▸ hop⟩
  | addServices services =>
      obtain ⟨hanswer, hhosts⟩ := h.addServices hop
      exact ⟨congrArg RegistryAnswer.tried hanswer, rfl, hhosts⟩
  | removeService service =>
      obtain ⟨hanswer, hhosts⟩ := h.removeService hop
      exact ⟨congrArg RegistryAnswer.told hanswer, rfl, hhosts⟩
  | initService service =>
      obtain ⟨hanswer, happ, hhosts⟩ := h.initService hop app
      exact ⟨congrArg RegistryAnswer.tried hanswer, happ, hhosts⟩
  | initServices | preDestroyServices => exact hop.elim
  | preDestroyService service => exact ⟨rfl, rfl, h.forget service⟩
  | deploy other service =>
      obtain ⟨hanswer, happ, hhosts⟩ := h.deploy hop.1 hop.2 app
      exact ⟨congrArg RegistryAnswer.tried hanswer, happ, hhosts⟩
  | undeploy service => exact ⟨rfl, rfl, ((h.forget service).removeService hop).2⟩
  | addProvider p =>
      exact h.apply_of_apart .told (fun _ => app) (apart_addProvider p) (fun _ => rfl) fun _ => rfl
  | removeProvider key =>
      refine h.apply_of_apart .provider (fun removed => removed.elim app fun p => p.onRemove app)
        (apart_removeProvider key) (fun _ => rfl) fun r => ?_
      rw [RegistryOp.apply, Registry.removeProvider]
      dsimp only
      cases (r.update _).1 <;> rfl
  | addRequestFilter | removeRequestFilter | addResponseFilter | removeResponseFilter
  | removeInterceptor | addMapper =>
      exact h.apply_of_apart .told (fun _ => app) (fun _ _ => rfl) (fun _ => rfl) fun _ => rfl
  | addInterceptor | addMappers | addConverter =>
      exact h.apply_of_apart (fun _ => .nothing) (fun _ => app) (fun _ _ => rfl) (fun _ => rfl)
        fun _ => rfl
  | removeMapper =>
      exact h.apply_of_apart .mapper (fun _ => app) (fun _ _ => rfl) (fun _ => rfl) fun _ => rfl

theorem Hosts.run (h : Hosts path guest r r') {ops : List (RegistryOp σ)}
    (hops : ∀ op ∈ ops, op.Spares path guest) (app : σ) :
    answers ops r' app = answers ops r app ∧ (run ops r' app).2 = (run ops r app).2 ∧
      Hosts path guest (run ops r app).1 (run ops r' app).1 := by
  induction ops generalizing r r' app with
  | nil => exact ⟨rfl, rfl, h⟩
  | cons op ops ih =>
      obtain ⟨hop, hops⟩ := List.forall_mem_cons.1 hops
      obtain ⟨hanswer, happ, hhosts⟩ := h.apply hop app
      rw [answers, answers, run_cons, run_cons, hanswer, happ]
      obtain ⟨hanswers, hrest⟩ := ih hhosts hops _
      exact ⟨congrArg _ hanswers, hrest⟩

theorem answers_append (ops ops' : List (RegistryOp σ)) (r : Registry σ) (app : σ) :
    answers (ops ++ ops') r app =
      answers ops r app ++ answers ops' (Registry.run ops r app).1 (Registry.run ops r app).2 := by
  induction ops generalizing r app with
  | nil => rfl
  | cons op ops ih =>
      rw [List.cons_append, answers, answers, ih, run_cons, List.cons_append]

theorem refresh_run {r : Registry σ} (app : σ) (ops : List (RegistryOp σ))
    (h : r.snapshot.refresh = r.snapshot) :
    (Registry.run ops r app).1.snapshot.refresh = (Registry.run ops r app).1.snapshot :=
  snapshot_run_of_change (P := fun s => s.refresh = s) (fun _ _ => rfl) ops app h

/-- A service that comes to a registry with any past and goes again leaves nothing behind but two
versions: if its path is free and it is not registered, and the calls in between spare it, they
give back the same and publish the same in the end as without it. -/
theorem snapshot_run_guest (config : DispatchConfig) (past : List (RegistryOp σ)) (start : σ)
    (path : String) (guest : Service σ) (ops : List (RegistryOp σ)) :
    let r := (Registry.run past { config } start).1
    let app := (Registry.run past { config } start).2
    r.snapshot.serviceAt? path = none → r.snapshot.holds guest = false →
      (∀ op ∈ ops, op.Spares path guest) →
      let visit := .addService path guest :: ops ++ [.removeService guest]
      let without := Registry.run ops r app
      (Registry.run visit r app).1.snapshot =
          { without.1.snapshot with version := without.1.snapshot.version + 2 } ∧
        (Registry.run visit r app).2 = without.2 ∧
        answers visit r app = .nothing :: answers ops r app ++ [.told true] := by
  intro r app hfree hheld hops visit without
  have hvacant : Vacant path guest r.snapshot.services := by
    refine ⟨ordered_run start past Table.ordered_nil, hfree, fun s hs hid => ?_⟩
    have hregistered : r.snapshot.holds guest = true := holds_iff.2 ⟨s, hs, hid⟩
    rw [hheld] at hregistered
    cases hregistered
  have hrefresh : without.1.snapshot.refresh = without.1.snapshot :=
    refresh_run app ops (refresh_run start past rfl)
  obtain ⟨hanswers, happ, hhosts⟩ := (hosts_addService hvacant).run hops app
  obtain ⟨hremoved, hsnapshot⟩ := hhosts.snapshot_removeService_guest hrefresh
  have hvisit : Registry.run visit r app =
      ((Registry.run ops (r.addService path guest) app).1.removeService guest |>.2,
        (Registry.run ops (r.addService path guest) app).2) := by
    rw [run_append]
    rfl
  refine ⟨?_, ?_, ?_⟩
  · rw [hvisit]
    exact hsnapshot
  · rw [hvisit]
    exact happ
  · have hcalls : answers visit r app = .nothing :: (answers ops (r.addService path guest) app ++
        [.told ((Registry.run ops (r.addService path guest) app).1.removeService guest).1]) :=
      congrArg (RegistryAnswer.nothing :: ·) (answers_append ops _ _ app)
    rw [hcalls, hanswers, hremoved]
    rfl

/-- A guest that declares a filter hides it, and another is registered meanwhile. -/
theorem snapshot_run_guest_declaring :
    let filter : RequestFilter Unit := fun _ st => (.ok .proceed, st)
    let guest : Service Unit := { id := 1, name := "G", requestFilters := [.declared "Auth"] }
    let past := [.addRequestFilter (.declared "Auth") filter]
    let ops := [RegistryOp.addRequestFilter (.declared "Log") filter]
    let r := (Registry.run past {} ()).1
    (r.addService "/g" guest).snapshot.globalRequestFilters = [] ∧
      (Registry.run (.addService "/g" guest :: ops ++ [.removeService guest]) r ()).1.snapshot =
        { (Registry.run ops r ()).1.snapshot with version := 4 } := by
  intro filter guest past ops r
  have hops : ∀ op ∈ ops, op.Spares "/g" guest := by simp [ops, RegistryOp.Spares]
  exact ⟨rfl, (snapshot_run_guest {} past () "/g" guest ops rfl rfl hops).1⟩

end Registry

end ServiceDispatch
