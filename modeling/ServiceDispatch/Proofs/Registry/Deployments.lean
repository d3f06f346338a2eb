import Mathlib.Data.List.Chain
import ServiceDispatch.Proofs.Registry.Stays

/-!
# Paired hooks of deployments

Where services are only deployed and undeployed and no hook fails, one would have the hooks of an
instance run in turn, the first one once more than the second exactly while the instance is
registered. That is so as long as every call is orderly: it undeploys no instance that is not
registered, and it takes no instance's place without leaving it another. It is not so after any
other call: an instance whose last registration is replaced leaves without its second hook, and the
second hook of an unregistered instance runs in vain.
-/

namespace ServiceDispatch

variable {σ : Type}

/-! ### Hooks in turn -/

namespace LifecyclePhase

/-- First and second hooks in turn, beginning with a first. -/
structure Alternate (ps : List LifecyclePhase) : Prop where
  chain : ps.IsChain (· ≠ ·)
  begins : ps.head? ≠ some .preDestroy

theorem alternate_iff {ps : List LifecyclePhase} :
    Alternate ps ↔ (.preDestroy :: ps).IsChain (· ≠ ·) := by
  rw [List.isChain_cons]
  constructor
  · exact fun h => ⟨fun p hp heq => h.begins (heq ▸ hp), h.chain⟩
  · exact fun h => ⟨h.2, fun hbegins => h.1 _ hbegins rfl⟩

theorem alternate_append_singleton {ps : List LifecyclePhase} {p : LifecyclePhase} :
    Alternate (ps ++ [p]) ↔ Alternate ps ∧ ps.getLastD .preDestroy ≠ p := by
  rw [alternate_iff, alternate_iff, ← List.cons_append, List.isChain_append]
  simp [List.getLast?_cons]

theorem Alternate.count {ps : List LifecyclePhase} (h : Alternate ps) :
    ps.count .postConstruct =
      ps.count .preDestroy + if ps.getLastD .preDestroy = .postConstruct then 1 else 0 := by
  induction ps using List.reverseRecOn with
  | nil => rfl
  | append_singleton ps p ih =>
      obtain ⟨hps, hlast⟩ := alternate_append_singleton.1 h
      have hcount := ih hps
      cases p with
      | postConstruct =>
          rw [if_neg hlast] at hcount
          simp [List.count_append, hcount]
      | preDestroy =>
          have hpost : ps.getLastD .preDestroy = .postConstruct := by
            cases hp : ps.getLastD .preDestroy with
            | postConstruct => rfl
            | preDestroy => exact (hlast hp).elim
          rw [if_pos hpost] at hcount
          simp [List.count_append, hcount]

/-- The hook that may run next follows from how often each has run. -/
theorem Alternate.append_iff {ps : List LifecyclePhase} (h : Alternate ps) (p : LifecyclePhase) :
    Alternate (ps ++ [p]) ↔
      (p = .preDestroy ↔ ps.count .postConstruct = ps.count .preDestroy + 1) := by
  rw [alternate_append_singleton, and_iff_right h, h.count]
  cases p <;> cases ps.getLastD .preDestroy <;> simp

end LifecyclePhase

/-! ### Deployments -/

namespace ServiceOp

/-- The call deploys or undeploys a service. -/
def isDeployment : ServiceOp σ → Bool
  | deploy _ _ => true
  | undeploy _ => true
  | _ => false

/-- The call does not undeploy the instance when it is not registered, and does not take the place
of its last registration. -/
def Orderly (id : Nat) (before after : Registry (Recorded σ)) : ServiceOp σ → Prop
  | undeploy s => s.id = id → before.Registers id
  | _ => before.Registers id → after.Registers id

end ServiceOp

namespace Lifecycle

/-- The hooks of the instance that have run. -/
def phases (l : Lifecycle σ) (id : Nat) : List LifecyclePhase :=
  l.events.filterMap fun
    | .ran run => if run.service = id then some run.phase else none
    | .left _ => none

/-- The hooks of the instance alternate, and it is registered while its last hook was a first. -/
structure Paired (l : Lifecycle σ) (id : Nat) : Prop where
  alternate : LifecyclePhase.Alternate (l.phases id)
  registered : l.registry.Registers id ↔
    (l.phases id).count .postConstruct = (l.phases id).count .preDestroy + 1

/-- The hooks of the instance are paired, and the registry notes it while it is registered. -/
structure Settled (l : Lifecycle σ) (id : Nat) : Prop extends l.Paired id where
  noted : l.registry.initialized.contains id = true ↔ l.registry.Registers id

theorem phases_next (l : Lifecycle σ) (op : ServiceOp σ) (id : Nat) : (l.next op).phases id =
    l.phases id ++ ((op.call l.registry l.app).2.runs.filter fun run => run.service = id).map
      HookRun.phase := by
  have hleft : ∀ ids : List Nat, (ids.map LifecycleEvent.left).filterMap (fun
      | .ran run => if run.service = id then some run.phase else none
      | .left _ => none) = [] := by
    intro ids
    simp
  have hran : ∀ runs : List HookRun, (runs.map LifecycleEvent.ran).filterMap (fun
      | .ran run => if run.service = id then some run.phase else none
      | .left _ => none) = (runs.filter fun run => run.service = id).map HookRun.phase := by
    intro runs
    induction runs with
    | nil => rfl
    | cons run runs ih => by_cases h : run.service = id <;> simp_all
  rw [phases, next, List.filterMap_append, ServiceOp.events, List.filterMap_append, hran, hleft,
    List.append_nil]
  rfl

end Lifecycle

namespace Registry

theorem registers_of_snapshot_eq {r r' : Registry σ} (h : r'.snapshot = r.snapshot) {id : Nat} :
    r'.Registers id ↔ r.Registers id := by
  rw [Registers, services_of_snapshot_eq h, Registers]

theorem registers_store_self (path : String) (s : Service σ) (r : Registry σ) :
    (r.store [(path, s)]).Registers s.id := by
  refine ⟨s, ?_, rfl⟩
  rw [services, snapshot_store]
  exact Table.mem_values_insert_self path s r.snapshot.services

theorem registers_of_store {path : String} {s : Service σ} {r : Registry σ} {id : Nat}
    (h : (r.store [(path, s)]).Registers id) (hid : s.id ≠ id) : r.Registers id := by
  obtain ⟨t, ht, rfl⟩ := h
  rcases mem_services_store ht with ⟨e, he, rfl⟩ | ht
  · rw [List.mem_singleton.1 he] at hid
    exact (hid rfl).elim
  · exact ⟨t, ht, rfl⟩

theorem contains_store_of_registers {entries : List (String × Service σ)} {r : Registry σ}
    {id : Nat} (h : (r.store entries).Registers id) :
    (r.store entries).initialized.contains id = r.initialized.contains id := by
  rw [contains_store]
  simp [h]

end Registry

namespace ServiceOp

variable {r : Registry (Recorded σ)} {app : σ}

theorem runs_undeploy (s : Service σ) : ((undeploy s).call r app).2.runs =
    [⟨s.id, .preDestroy, (r.preDestroyService s.recorded ⟨app, []⟩).1.isOk⟩] :=
  Registry.runs_preDestroyService s r ⟨app, []⟩

theorem runs_deploy (path : String) (s : Service σ) : ((deploy path s).call r app).2.runs =
    if r.initialized.contains s.id then [] else
      [⟨s.id, .postConstruct, (r.initService s.recorded ⟨app, []⟩).1.isOk⟩] := by
  rw [call, recorded, RegistryOp.apply, ← List.nil_append (ite _ _ _)]
  refine Eq.trans ?_ (Registry.runs_initService s r ⟨app, []⟩)
  rw [Registry.deploy]
  split
  · next heq => rw [heq]
  · next heq => rw [heq]

/-- A service was added behind its first hook or behind nothing. -/
structure Deployed (s : Service σ) (before after : Registry (Recorded σ)) : Prop where
  registers_self : after.Registers s.id
  registers_of_ne {id : Nat} (h : after.Registers id) (hid : s.id ≠ id) : before.Registers id
  contains_of_registers {id : Nat} (h : after.Registers id) :
    after.initialized.contains id = (before.initialized.contains id || id == s.id)
  contains_before {id : Nat} (h : after.initialized.contains id = true) :
    (before.initialized.contains id || id == s.id) = true

/-- If no hook fails, a deployment adds the service. -/
theorem deployed_of_succeeded {path : String} {s : Service σ}
    (h : ∀ run ∈ ((deploy path s).call r app).2.runs, run.succeeded = true) :
    Deployed s r ((deploy path s).call r app).1 := by
  have hok : (r.initService s.recorded ⟨app, []⟩).1.isOk = true := by
    by_cases hnoted : r.initialized.contains s.id = true
    · rw [Registry.initService, Service.id_recorded, if_pos hnoted]
      rfl
    · rw [runs_deploy, if_neg hnoted] at h
      exact h _ List.mem_cons_self
  have hsnapshot := Registry.snapshot_initService s.recorded r ⟨app, []⟩
  have hnotes := Registry.contains_initService s.recorded r ⟨app, []⟩
  simp only [hok, Bool.and_true, Service.id_recorded] at hnotes
  rw [call, recorded, RegistryOp.apply, Registry.deploy]
  split
  · next between a heq =>
    simp only [heq] at hsnapshot hnotes
    rw [Registry.addService_eq]
    refine ⟨Registry.registers_store_self path s.recorded between, fun hid hne => ?_,
      fun hid => ?_, fun {id} hid => ?_⟩
    · exact (Registry.registers_of_snapshot_eq hsnapshot).1 (Registry.registers_of_store hid hne)
    · rw [Registry.contains_store_of_registers hid, hnotes]
    · rw [Registry.contains_store, Bool.and_eq_true] at hid
      exact hnotes id ▸ hid.1
  · next heq =>
    rw [heq] at hok
    cases hok

end ServiceOp

namespace Lifecycle

variable {l : Lifecycle σ} {id : Nat}

/-- An instance is registered or both hooks have run equally often. -/
theorem Paired.count (h : l.Paired id) (hout : ¬l.registry.Registers id) :
    (l.phases id).count .postConstruct = (l.phases id).count .preDestroy := by
  have hcount := h.alternate.count
  rw [h.registered] at hout
  split at hcount
  · exact (hout hcount).elim
  · exact hcount

theorem Paired.of_phases_eq {l' : Lifecycle σ} (h : l.Paired id) (hphases : l'.phases id = l.phases id)
    (hregisters : l'.registry.Registers id ↔ l.registry.Registers id) : l'.Paired id where
  alternate := hphases ▸ h.alternate
  registered := by rw [hphases, hregisters, h.registered]

theorem phases_deploy (l : Lifecycle σ) (path : String) (s : Service σ) (id : Nat) :
    (l.next (.deploy path s)).phases id = l.phases id ++
      if s.id = id ∧ l.registry.initialized.contains id = false then [.postConstruct] else [] := by
  rw [phases_next, ServiceOp.runs_deploy]
  congr 1
  by_cases hid : s.id = id
  · subst hid
    cases l.registry.initialized.contains s.id <;> simp
  · split <;> simp [hid]

theorem phases_undeploy (l : Lifecycle σ) (s : Service σ) (id : Nat) :
    (l.next (.undeploy s)).phases id = l.phases id ++ if s.id = id then [.preDestroy] else [] := by
  rw [phases_next, ServiceOp.runs_undeploy]
  by_cases hid : s.id = id <;> simp [hid]

theorem registers_undeploy (l : Lifecycle σ) (s : Service σ) (id : Nat) :
    (l.next (.undeploy s)).registry.Registers id ↔ l.registry.Registers id ∧ id ≠ s.id :=
  Registry.registers_removeService

theorem contains_undeploy (l : Lifecycle σ) (s : Service σ) (id : Nat) :
    (l.next (.undeploy s)).registry.initialized.contains id =
      (l.registry.initialized.contains id && id != s.id) := by
  have hcall : (l.next (.undeploy s)).registry =
      ((l.registry.forget s.recorded).removeService s.recorded).2 := rfl
  rw [hcall, Registry.contains_removeService, Registry.contains_forget, Service.id_recorded]
  by_cases hid : id = s.id <;> simp [hid]

theorem Settled.deploy (h : l.Settled id) (path : String) (s : Service σ)
    (hok : ∀ run ∈ ((ServiceOp.deploy path s).call l.registry l.app).2.runs, run.succeeded = true)
    (hkept : l.registry.Registers id → (l.next (.deploy path s)).registry.Registers id) :
    (l.next (.deploy path s)).Settled id := by
  have hdeployed : ServiceOp.Deployed s l.registry (l.next (.deploy path s)).registry :=
    ServiceOp.deployed_of_succeeded hok
  have hnoted : (l.next (.deploy path s)).registry.initialized.contains id = true ↔
      (l.next (.deploy path s)).registry.Registers id := by
    constructor
    · intro hnoted
      rcases Bool.or_eq_true_iff.1 (hdeployed.contains_before hnoted) with hbefore | hself
      · exact hkept (h.noted.1 hbefore)
      · exact beq_iff_eq.1 hself ▸ hdeployed.registers_self
    · intro hregistered
      rw [hdeployed.contains_of_registers hregistered, Bool.or_eq_true, beq_iff_eq]
      by_cases hself : s.id = id
      · exact .inr hself.symm
      · exact .inl (h.noted.2 (hdeployed.registers_of_ne hregistered hself))
  have hphases := phases_deploy l path s id
  split at hphases
  · next hfirst =>
    obtain ⟨rfl, hfresh⟩ := hfirst
    have hout : ¬l.registry.Registers s.id := fun hin =>
      Bool.eq_false_iff.1 hfresh (h.noted.2 hin)
    have hcount := h.count hout
    refine ⟨⟨?_, ?_⟩, hnoted⟩
    · rw [hphases, h.alternate.append_iff]
      simp [hcount]
    · rw [hphases]
      simp [hdeployed.registers_self, hcount]
  · next hfirst =>
    rw [List.append_nil] at hphases
    refine ⟨h.of_phases_eq hphases ⟨fun hafter => ?_, hkept⟩, hnoted⟩
    by_cases hself : s.id = id
    · exact h.noted.1 (Bool.of_not_eq_false fun hfresh => hfirst ⟨hself, hfresh⟩)
    · exact hdeployed.registers_of_ne hafter hself

theorem Settled.undeploy (h : l.Settled id) (s : Service σ)
    (hregistered : s.id = id → l.registry.Registers id) : (l.next (.undeploy s)).Settled id := by
  have hafter := registers_undeploy l s id
  have hphases := phases_undeploy l s id
  have hcontains := contains_undeploy l s id
  by_cases hid : s.id = id
  · subst hid
    have hcount := h.registered.1 (hregistered rfl)
    have hout : ¬(l.next (.undeploy s)).registry.Registers s.id := fun hin => (hafter.1 hin).2 rfl
    rw [if_pos rfl] at hphases
    refine ⟨⟨?_, ?_⟩, ?_⟩
    · rw [hphases, h.alternate.append_iff]
      simp [hcount]
    · rw [hphases]
      simp [hout, hcount]
    · rw [hcontains]
      simp [hout]
  · rw [if_neg hid, List.append_nil] at hphases
    have hkept : (l.next (.undeploy s)).registry.Registers id ↔ l.registry.Registers id := by
      rw [hafter, and_iff_left (Ne.symm hid)]
    refine ⟨h.of_phases_eq hphases hkept, ?_⟩
    rw [hcontains, hkept, ← h.noted, bne_iff_ne.2 (Ne.symm hid), Bool.and_true]

/-- The registered instances of a moment at which the hooks are paired keep their place, and no
other is undeployed, if the hooks are still paired at the next moment. -/
theorem Paired.orderly {op : ServiceOp σ} (hop : op.isDeployment = true) (h : l.Paired id)
    (hnext : (l.next op).Paired id) : op.Orderly id l.registry (l.next op).registry := by
  cases op with
  | deploy path s =>
      intro hin
      by_contra hout
      have hbefore := h.registered.1 hin
      have hafter := hnext.count hout
      have halternate := hnext.alternate
      rw [phases_deploy] at hafter halternate
      -- a first hook would be the second first hook in a row
      split at hafter
      · next hfirst =>
        rw [if_pos hfirst, h.alternate.append_iff] at halternate
        exact absurd (halternate.2 hbefore) (by decide)
      · rw [List.append_nil] at hafter
        omega
  | undeploy s =>
      rintro rfl
      by_contra hout
      have hbefore := h.count hout
      have halternate := hnext.alternate
      rw [phases_undeploy, if_pos rfl, h.alternate.append_iff] at halternate
      have hafter := halternate.1 rfl
      omega
  | _ => cases hop

theorem Settled.next (h : l.Settled id) {op : ServiceOp σ} (hop : op.isDeployment = true)
    (hok : ∀ run ∈ (op.call l.registry l.app).2.runs, run.succeeded = true)
    (horderly : op.Orderly id l.registry (l.next op).registry) : (l.next op).Settled id := by
  cases op with
  | deploy path s => exact h.deploy path s hok horderly
  | undeploy s => exact h.undeploy s horderly
  | _ => cases hop

theorem settled_start (config : DispatchConfig) (app : σ) (id : Nat) :
    (after config app []).Settled id where
  alternate := ⟨.nil, by simp [after, phases]⟩
  registered := by simp [after, phases, Registry.Registers, Registry.services, Table.values,
    Snapshot.initial]
  noted := by simp [after, Registry.Registers, Registry.services, Table.values, Snapshot.initial]

/-- What has happened stays. -/
theorem events_initial (config : DispatchConfig) (app : σ) {earlier ops : List (ServiceOp σ)}
    (h : earlier <+: ops) : (after config app earlier).events <+: (after config app ops).events := by
  obtain ⟨later, rfl⟩ := h
  induction later using List.reverseRecOn with
  | nil => simp
  | append_singleton later op ih =>
      rw [← List.append_assoc, after_append]
      exact ih.trans (List.prefix_append _ _)

/-- After deployments with no failing hook the hooks of an instance are paired at every moment
exactly if every call was orderly for it. -/
theorem paired_iff_orderly (config : DispatchConfig) (app : σ) (ops : List (ServiceOp σ))
    (hops : ∀ op ∈ ops, op.isDeployment = true)
    (hok : ∀ run, .ran run ∈ (after config app ops).events → run.succeeded = true) (id : Nat) :
    (∀ earlier, earlier <+: ops → (after config app earlier).Paired id) ↔
      ∀ earlier op, earlier ++ [op] <+: ops →
        op.Orderly id (after config app earlier).registry
          (after config app (earlier ++ [op])).registry := by
  constructor
  · intro hpaired earlier op hstart
    have hop := hops op (hstart.subset (by simp))
    have hbefore := hpaired earlier ((List.prefix_append _ _).trans hstart)
    have hafter := hpaired (earlier ++ [op]) hstart
    rw [after_append] at hafter ⊢
    exact hbefore.orderly hop hafter
  · intro horderly earlier hstart
    suffices hsettled : (after config app earlier).Settled id from hsettled.toPaired
    induction earlier using List.reverseRecOn with
    | nil => exact settled_start config app id
    | append_singleton earlier op ih =>
        have hop := hops op (hstart.subset (by simp))
        have hnext := horderly earlier op hstart
        have hevents := (events_initial config app hstart).subset
        rw [after_append] at hnext hevents ⊢
        refine (ih ((List.prefix_append _ _).trans hstart)).next hop (fun run hrun => ?_) hnext
        refine hok run (hevents (List.mem_append_right _ (List.mem_append_left _ ?_)))
        exact List.mem_map_of_mem hrun

theorem paired_deploy_undeploy :
    let s : Service Unit := { id := 1, name := "S" }
    let ops := [ServiceOp.deploy "/s" s, .undeploy s]
    (∀ op ∈ ops, op.isDeployment = true) ∧
      (∀ run, .ran run ∈ (after {} () ops).events → run.succeeded = true) ∧
      ∀ earlier, earlier <+: ops → (after {} () earlier).Paired 1 := by
  intro s ops
  have hops : ∀ op ∈ ops, op.isDeployment = true := by simp [ops, ServiceOp.isDeployment]
  have hevents : (after {} () ops).events =
      [.ran ⟨1, .postConstruct, true⟩, .ran ⟨1, .preDestroy, true⟩, .left 1] := by decide
  have hok : ∀ run, .ran run ∈ (after {} () ops).events → run.succeeded = true := by
    rw [hevents]
    simp
  refine ⟨hops, hok, (paired_iff_orderly {} () ops hops hok 1).2 fun earlier op hstart => ?_⟩
  rcases earlier with _ | ⟨first, _ | ⟨second, rest⟩⟩
  · obtain ⟨rfl, -⟩ := List.cons_prefix_cons.1 hstart
    exact fun _ => by decide
  · obtain ⟨rfl, hrest⟩ := List.cons_prefix_cons.1 hstart
    obtain ⟨rfl, -⟩ := List.cons_prefix_cons.1 hrest
    exact fun _ => by decide
  · have hlength := hstart.length_le
    simp [ops] at hlength

/-- An instance that is replaced leaves without its second hook. -/
theorem not_paired_replaced :
    let ops : List (ServiceOp Unit) :=
      [.deploy "/s" { id := 1, name := "S" }, .deploy "/s" { id := 2, name := "T" }]
    (∀ op ∈ ops, op.isDeployment = true) ∧
      (∀ run, .ran run ∈ (after {} () ops).events → run.succeeded = true) ∧
      ¬(after {} () ops).registry.Registers 1 ∧
      ¬(after {} () ops).Paired 1 := by
  intro ops
  have hevents : (after {} () ops).events = [.ran ⟨1, .postConstruct, true⟩,
      .ran ⟨2, .postConstruct, true⟩, .left 1] := by decide
  have hphases : (after {} () ops).phases 1 = [.postConstruct] := by
    rw [phases, hevents]
    rfl
  have hout : ¬(after {} () ops).registry.Registers 1 := by decide
  refine ⟨by simp [ops, ServiceOp.isDeployment], ?_, hout, fun h => ?_⟩
  · rw [hevents]
    simp
  · rw [h.registered, hphases] at hout
    exact hout (by decide)

end Lifecycle

end ServiceDispatch
