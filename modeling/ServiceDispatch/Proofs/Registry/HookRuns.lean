import ServiceDispatch.Proofs.Data.Except
import ServiceDispatch.Proofs.Data.Table
import ServiceDispatch.Proofs.Registry.History

/-!
# Recorded lives of services

The hooks of a recorded service note each run of theirs in the state that they act on, so the
registry itself tells which hooks its calls run. A `Lifecycle` follows a registry of such services
through a history of calls. Its events are the runs of hooks and, behind those of the same call,
the instances that the call took out of the registry: it removed or replaced some registration of
theirs, and none is left when it returns. One that leaves and comes back within a call is not among
them.
-/

namespace ServiceDispatch

variable {σ : Type}

/-- One run of a hook. -/
structure HookRun where
  /-- The number of the instance. -/
  service : Nat
  phase : LifecyclePhase
  succeeded : Bool
  deriving DecidableEq, Repr

/-- An application together with the runs of hooks on it, in their order. -/
structure Recorded (σ : Type) where
  app : σ
  runs : List HookRun := []

namespace Service

/-- The hook of a phase, which also notes its run. -/
def recordedHook (s : Service σ) (phase : LifecyclePhase) (a : Recorded σ) :
    Except String Unit × Recorded σ :=
  let (result, app) := s.hook phase a.app
  (result, ⟨app, a.runs ++ [⟨s.id, phase, result.isOk⟩]⟩)

/-- The same instance with hooks that note their runs. -/
def recorded (s : Service σ) : Service (Recorded σ) where
  id := s.id
  name := s.name
  basePath := s.basePath
  requestFilters := s.requestFilters
  responseFilters := s.responseFilters
  postConstruct := s.recordedHook .postConstruct
  preDestroy := s.recordedHook .preDestroy

@[simp] theorem id_recorded (s : Service σ) : s.recorded.id = s.id := rfl

/-- A recorded hook does what the hook does, and notes one run. -/
theorem runHook_recorded (s : Service σ) (phase : LifecyclePhase) (a : Recorded σ) :
    s.recorded.runHook phase a =
      ((s.runHook phase a.app).1, ⟨(s.runHook phase a.app).2,
        a.runs ++ [⟨s.id, phase, (s.runHook phase a.app).1.isOk⟩]⟩) := by
  have hhook : s.recorded.hook phase = s.recordedHook phase := by cases phase <;> rfl
  rw [runHook, hhook, recordedHook, runHook]
  rcases s.hook phase a.app with ⟨_ | _, app⟩ <;> rfl

end Service

/-! ### What is registered -/

namespace Registry

/-- The instance is registered under some path. -/
def Registers (r : Registry σ) (id : Nat) : Prop := ∃ s ∈ r.services, s.id = id

instance (r : Registry σ) (id : Nat) : Decidable (r.Registers id) :=
  inferInstanceAs (Decidable (∃ s ∈ r.services, s.id = id))

theorem services_of_snapshot_eq {r r' : Registry σ} (h : r'.snapshot = r.snapshot) :
    r'.services = r.services := by
  rw [services, h, services]

theorem holds_iff {r : Registry σ} {s : Service σ} :
    r.snapshot.holds s = true ↔ r.Registers s.id := by
  rw [Snapshot.holds, List.any_eq_true]
  exact exists_congr fun t => and_congr_right fun _ => beq_iff_eq.trans eq_comm

/-- The services that storing entries one after the other replaces. -/
def replaced : List (String × Service σ) → Table (Service σ) → List (Service σ)
  | [], _ => []
  | e :: es, services =>
    (Table.get? e.1 services).toList ++ replaced es (Table.insert e.1 e.2 services)

theorem place_eq (entries : List (String × Service σ)) (services : Table (Service σ)) :
    place entries services = (replaced entries services,
      entries.foldl (fun t e => Table.insert e.1 e.2 t) services) := by
  have hfold : ∀ (entries : List (String × Service σ)) (acc : List (Service σ)) services,
      entries.foldl (fun acc e =>
          (acc.1 ++ (Table.get? e.1 acc.2).toList, Table.insert e.1 e.2 acc.2)) (acc, services) =
        (acc ++ replaced entries services,
          entries.foldl (fun t e => Table.insert e.1 e.2 t) services) := by
    intro entries
    induction entries with
    | nil => simp [replaced]
    | cons e entries ih =>
        intro acc services
        rw [List.foldl_cons, ih, List.foldl_cons, replaced, List.append_assoc]
  rw [place, hfold, List.nil_append]

/-- The registry with other services, as it is published. -/
def withServices (services : Table (Service σ)) (r : Registry σ) : Registry σ :=
  { r with snapshot := { r.snapshot with services }.publish }

/-- Stores services under paths and drops the notes of those replaced that are left nowhere. -/
def store (entries : List (String × Service σ)) (r : Registry σ) : Registry σ :=
  (replaced entries r.snapshot.services).foldl (fun r old => r.forgetUnregistered old)
    (r.withServices (entries.foldl (fun t e => Table.insert e.1 e.2 t) r.snapshot.services))

theorem addService_eq (path : String) (s : Service σ) (r : Registry σ) :
    r.addService path s = r.store [(path, s)] := by
  have hreplaced : replaced [(path, s)] r.snapshot.services =
      (r.snapshot.serviceAt? path).toList := List.append_nil _
  rw [store, hreplaced, addService]
  cases hold : r.snapshot.serviceAt? path <;> simp only [update, hold] <;> rfl

theorem addServices_eq (services : List (Service σ)) (r : Registry σ) :
    r.addServices services = match services.mapM declaredPath with
      | .error e => (.error e, r)
      | .ok entries => (.ok (), r.store entries) := by
  rw [addServices]
  cases services.mapM declaredPath with
  | error e => rfl
  | ok entries =>
      simp only [store, update, place_eq]
      rfl

@[simp] theorem snapshot_store (entries : List (String × Service σ)) (r : Registry σ) :
    (r.store entries).snapshot = (r.withServices
      (entries.foldl (fun t e => Table.insert e.1 e.2 t) r.snapshot.services)).snapshot :=
  snapshot_foldl_forgetUnregistered _ _

theorem mem_services_store {entries : List (String × Service σ)} {r : Registry σ} {s : Service σ}
    (h : s ∈ (r.store entries).services) : (∃ e ∈ entries, e.2 = s) ∨ s ∈ r.services := by
  rw [services, snapshot_store] at h
  exact Table.mem_values_foldl_insert h

/-! ### Notes of initialized instances -/

theorem contains_forget (s : Service σ) (r : Registry σ) (id : Nat) :
    (r.forget s).initialized.contains id = (r.initialized.contains id && id != s.id) := by
  rw [Bool.eq_iff_iff, forget, List.contains_iff_mem, List.mem_filter, Bool.and_eq_true,
    List.contains_iff_mem]

/-- Of several instances the notes of those go that are registered nowhere. -/
theorem contains_foldl_forgetUnregistered (olds : List (Service σ)) (r : Registry σ) (id : Nat) :
    (olds.foldl (fun r old => r.forgetUnregistered old) r).initialized.contains id =
      (r.initialized.contains id &&
        !((olds.map Service.id).filter fun id => ¬r.Registers id).contains id) := by
  induction olds generalizing r with
  | nil => simp
  | cons old olds ih =>
      rw [List.foldl_cons, ih, List.map_cons]
      by_cases hheld : r.snapshot.holds old = true
      · have hregistered : r.Registers old.id := holds_iff.1 hheld
        rw [forgetUnregistered, if_pos hheld, List.filter_cons_of_neg (by simpa using hregistered)]
      · have hunregistered : ¬r.Registers old.id := fun h => hheld (holds_iff.2 h)
        have hsame : ∀ id, (r.forget old).Registers id ↔ r.Registers id := fun _ => Iff.rfl
        rw [forgetUnregistered, if_neg hheld,
          List.filter_cons_of_pos (by simpa using hunregistered), contains_forget]
        simp only [hsame, List.contains_cons, Bool.not_or, bne, Bool.and_assoc]

theorem contains_store (entries : List (String × Service σ)) (r : Registry σ) (id : Nat) :
    (r.store entries).initialized.contains id = (r.initialized.contains id &&
      !(((replaced entries r.snapshot.services).map Service.id).filter
        fun id => ¬(r.store entries).Registers id).contains id) := by
  have hsame : ∀ id, (r.store entries).Registers id ↔ (r.withServices
      (entries.foldl (fun t e => Table.insert e.1 e.2 t) r.snapshot.services)).Registers id := by
    intro id
    rw [Registers, services, snapshot_store]
    exact Iff.rfl
  simp only [hsame]
  exact contains_foldl_forgetUnregistered _ _ id

theorem services_removeService (s : Service σ) (r : Registry σ) :
    (r.removeService s).2.services = r.services.filter fun t => !s.isSame t := by
  rw [services, snapshot_removeService, services, Table.values, Table.values, List.filter_map]
  rfl

theorem registers_removeService {s : Service σ} {r : Registry σ} {id : Nat} :
    (r.removeService s).2.Registers id ↔ r.Registers id ∧ id ≠ s.id := by
  rw [Registers, services_removeService]
  constructor
  · rintro ⟨t, ht, rfl⟩
    obtain ⟨ht, hother⟩ := List.mem_filter.1 ht
    exact ⟨⟨t, ht, rfl⟩, fun heq => by simp [Service.isSame, heq] at hother⟩
  · rintro ⟨⟨t, ht, rfl⟩, hne⟩
    exact ⟨t, List.mem_filter.2 ⟨ht, by simpa [Service.isSame] using hne.symm⟩, rfl⟩

theorem contains_removeService (s : Service σ) (r : Registry σ) (id : Nat) :
    (r.removeService s).2.initialized.contains id =
      (r.initialized.contains id && !decide (r.Registers id ∧ id = s.id)) := by
  simp only [removeService]
  split
  · next hheld =>
    have hregistered : r.Registers s.id := holds_iff.1 hheld
    rw [contains_forget]
    by_cases hid : id = s.id <;> simp [update, hid, hregistered]
  · next hheld =>
    have hunregistered : ¬r.Registers s.id := fun h => hheld (holds_iff.2 h)
    by_cases hid : id = s.id <;> simp [update, hid, hunregistered]

/-! ### Runs of recorded hooks -/

theorem runs_initService (s : Service σ) (r : Registry (Recorded σ)) (a : Recorded σ) :
    (r.initService s.recorded a).2.2.runs = a.runs ++ if r.initialized.contains s.id then [] else
      [⟨s.id, .postConstruct, (r.initService s.recorded a).1.isOk⟩] := by
  rw [initService, Service.id_recorded, Service.runHook_recorded]
  split
  · exact (List.append_nil _).symm
  · rcases s.runHook .postConstruct a.app with ⟨_ | _, app⟩ <;> rfl

theorem contains_initService (s : Service σ) (r : Registry σ) (app : σ) (id : Nat) :
    (r.initService s app).2.1.initialized.contains id =
      (r.initialized.contains id || id == s.id && (r.initService s app).1.isOk) := by
  rw [initService]
  split
  · next hnoted =>
    by_cases hid : id = s.id
    · rw [hid, hnoted, Bool.true_or]
    · simp [hid]
  · rcases s.runHook .postConstruct app with ⟨_ | _, app⟩
    · simp [Except.isOk, Except.toBool]
    · rw [Bool.or_comm]
      exact congrArg (· || _) (Bool.and_true _).symm

theorem runs_preDestroyService (s : Service σ) (r : Registry (Recorded σ)) (a : Recorded σ) :
    (r.preDestroyService s.recorded a).2.2.runs =
      a.runs ++ [⟨s.id, .preDestroy, (r.preDestroyService s.recorded a).1.isOk⟩] := by
  rw [preDestroyService, Service.runHook_recorded]

end Registry

/-! ### Calls and their events -/

/-- A call about services. -/
inductive ServiceOp (σ : Type) where
  | addService (path : String) (service : Service σ)
  | addServices (services : List (Service σ))
  | removeService (service : Service σ)
  | initService (service : Service σ)
  | initServices
  | preDestroyService (service : Service σ)
  | preDestroyServices
  | deploy (path : String) (service : Service σ)
  | undeploy (service : Service σ)

/-- What matters in the life of an instance. -/
inductive LifecycleEvent where
  | ran (run : HookRun)
  /-- A call removed or replaced registrations of the instance and left it none. -/
  | left (service : Nat)
  deriving DecidableEq, Repr

namespace ServiceOp

def recorded : ServiceOp σ → RegistryOp (Recorded σ)
  | addService path service => .addService path service.recorded
  | addServices services => .addServices (services.map Service.recorded)
  | removeService service => .removeService service.recorded
  | initService service => .initService service.recorded
  | initServices => .initServices
  | preDestroyService service => .preDestroyService service.recorded
  | preDestroyServices => .preDestroyServices
  | deploy path service => .deploy path service.recorded
  | undeploy service => .undeploy service.recorded

/-- Makes the call with nothing recorded yet. -/
def call (op : ServiceOp σ) (r : Registry (Recorded σ)) (app : σ) :
    Registry (Recorded σ) × Recorded σ :=
  op.recorded.apply r ⟨app, []⟩

/-- What the call stores, if it succeeds. -/
def stored : ServiceOp σ → List (String × Service (Recorded σ))
  | addService path service => [(path, service.recorded)]
  | addServices services =>
    ((services.map Service.recorded).mapM Registry.declaredPath).toOption.getD []
  | deploy path service => [(path, service.recorded)]
  | _ => []

/-- The registrations that the call removes. -/
def removed (r : Registry (Recorded σ)) : ServiceOp σ → List (Service (Recorded σ))
  | removeService service => r.services.filter service.recorded.isSame
  | undeploy service => r.services.filter service.recorded.isSame
  | _ => []

/-- The registrations that the call replaces or removes. -/
def taken (op : ServiceOp σ) (r : Registry (Recorded σ)) : List (Service (Recorded σ)) :=
  Registry.replaced op.stored r.snapshot.services ++ op.removed r

/-- The instances that lose a registration by the call and have none when it returns. -/
def departures (op : ServiceOp σ) (r : Registry (Recorded σ)) (app : σ) : List Nat :=
  ((op.taken r).map Service.id).filter fun id => ¬(op.call r app).1.Registers id

/-- The runs of hooks in the call, and then the departures. -/
def events (op : ServiceOp σ) (r : Registry (Recorded σ)) (app : σ) : List LifecycleEvent :=
  (op.call r app).2.runs.map .ran ++ (op.departures r app).map .left

end ServiceOp

/-- A registry of recorded services with all that has happened to them. -/
structure Lifecycle (σ : Type) where
  registry : Registry (Recorded σ)
  app : σ
  events : List LifecycleEvent := []

namespace Lifecycle

def next (l : Lifecycle σ) (op : ServiceOp σ) : Lifecycle σ where
  registry := (op.call l.registry l.app).1
  app := (op.call l.registry l.app).2.app
  events := l.events ++ op.events l.registry l.app

/-- A new registry after a history of calls. -/
def after (config : DispatchConfig) (app : σ) (ops : List (ServiceOp σ)) : Lifecycle σ :=
  ops.foldl next { registry := { config }, app }

end Lifecycle

end ServiceDispatch
