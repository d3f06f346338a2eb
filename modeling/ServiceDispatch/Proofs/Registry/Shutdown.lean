import ServiceDispatch.Proofs.Registry.HookRuns

/-!
# Ending all services

Ending the services of a registry runs the second hook once for every registration, in the order of
the paths, and reports the first failure. An instance that is registered under several paths is
ended several times, so each instance is ended once exactly if none of them has two paths. Which
hooks run is told by a copy of the registry whose services note the runs of their hooks, and the
copy does what the registry does.
-/

namespace ServiceDispatch

variable {σ : Type}

/-! ### Hooks in a row -/

namespace Service

/-- The state behind the hooks of services, each run on what the one before left. -/
def afterHooks (phase : LifecyclePhase) (services : List (Service σ)) (app : σ) : σ :=
  services.foldl (fun app s => (s.runHook phase app).2) app

/-- The runs of the hooks of services in a row. -/
def hookRuns (phase : LifecyclePhase) : List (Service σ) → σ → List HookRun
  | [], _ => []
  | s :: services, app =>
    ⟨s.id, phase, (s.runHook phase app).1.isOk⟩ :: hookRuns phase services (s.runHook phase app).2

variable (phase : LifecyclePhase) (services : List (Service σ)) (app : σ)

theorem map_hookRuns :
    ((hookRuns phase services app).map fun run => (run.service, run.phase)) =
      services.map fun s => (s.id, phase) := by
  induction services generalizing app with
  | nil => rfl
  | cons s services ih => rw [hookRuns, List.map_cons, ih, List.map_cons]

theorem map_service_hookRuns :
    (hookRuns phase services app).map HookRun.service = services.map Service.id := by
  have h := congrArg (List.map Prod.fst) (map_hookRuns phase services app)
  rwa [List.map_map, List.map_map] at h

/-- The runs of the first hooks do not depend on what comes behind. -/
theorem take_hookRuns (before behind : List (Service σ)) :
    (hookRuns phase (before ++ behind) app).take before.length = hookRuns phase before app := by
  induction before generalizing app with
  | nil => rfl
  | cons s before ih =>
      rw [List.cons_append, hookRuns, List.length_cons, List.take_succ_cons, ih, hookRuns]

end Service

namespace Registry

open Service (afterHooks hookRuns)

theorem firstFailure_eq_ok_iff {a b : Except RegistryError Unit} :
    firstFailure a b = .ok () ↔ a.isOk = true ∧ b = .ok () := by
  cases a <;> simp [firstFailure, Except.isOk, Except.toBool]

theorem firstFailure_eq_error_iff {a b : Except RegistryError Unit} {e : RegistryError} :
    firstFailure a b = .error e ↔ a = .error e ∨ a.isOk = true ∧ b = .error e := by
  cases a <;> simp [firstFailure, Except.isOk, Except.toBool]

theorem preDestroyAll_cons (s : Service σ) (services : List (Service σ)) (r : Registry σ)
    (app : σ) :
    (preDestroyAll (s :: services) r app).1 = firstFailure (s.runHook .preDestroy app).1
      (preDestroyAll services (r.forget s) (s.runHook .preDestroy app).2).1 := rfl

theorem app_preDestroyAll_cons (s : Service σ) (services : List (Service σ)) (r : Registry σ)
    (app : σ) :
    (preDestroyAll (s :: services) r app).2.2 =
      (preDestroyAll services (r.forget s) (s.runHook .preDestroy app).2).2.2 := rfl

theorem preDestroyAll_eq_ok_iff {services : List (Service σ)} {r : Registry σ} {app : σ} :
    (preDestroyAll services r app).1 = .ok () ↔
      ∀ run ∈ hookRuns .preDestroy services app, run.succeeded = true := by
  induction services generalizing r app with
  | nil => simp [preDestroyAll, hookRuns]
  | cons s services ih =>
      rw [preDestroyAll_cons, firstFailure_eq_ok_iff, ih, hookRuns, List.forall_mem_cons]

/-- The failure that is reported is that of the first hook that fails. -/
theorem preDestroyAll_eq_error_iff {services : List (Service σ)} {r : Registry σ} {app : σ}
    {e : RegistryError} :
    (preDestroyAll services r app).1 = .error e ↔ ∃ before s behind,
      services = before ++ s :: behind ∧
        (∀ run ∈ hookRuns .preDestroy before app, run.succeeded = true) ∧
        (s.runHook .preDestroy (afterHooks .preDestroy before app)).1 = .error e := by
  induction services generalizing r app with
  | nil => simp [preDestroyAll]
  | cons s services ih =>
      rw [preDestroyAll_cons, firstFailure_eq_error_iff, ih]
      constructor
      · rintro (hfails | ⟨hok, before, t, behind, rfl, hbefore, hfails⟩)
        · exact ⟨[], s, services, rfl, by simp [hookRuns], hfails⟩
        · refine ⟨s :: before, t, behind, rfl, ?_, hfails⟩
          rw [hookRuns]
          exact List.forall_mem_cons.2 ⟨hok, hbefore⟩
      · rintro ⟨before, t, behind, heq, hbefore, hfails⟩
        cases before with
        | nil =>
            cases heq
            exact .inl hfails
        | cons u before =>
            cases heq
            rw [hookRuns] at hbefore
            obtain ⟨hok, hbefore⟩ := List.forall_mem_cons.1 hbefore
            exact .inr ⟨hok, before, t, behind, rfl, hbefore, hfails⟩

/-! ### A copy that records -/

/-- The services of a registry, as services that note the runs of their hooks. -/
def recorded (r : Registry σ) : Registry (Recorded σ) where
  snapshot := { services := r.snapshot.services.map fun e => (e.1, e.2.recorded) }
  initialized := r.initialized
  config := r.config

theorem services_recorded (r : Registry σ) :
    r.recorded.services = r.services.map Service.recorded := by
  rw [services, recorded, services, Table.values, Table.values, List.map_map, List.map_map]
  rfl

/-- Hooks that note their runs do what they do otherwise. -/
theorem preDestroyAll_recorded (services : List (Service σ)) (r : Registry σ)
    (r' : Registry (Recorded σ)) (a : Recorded σ) :
    (preDestroyAll (services.map Service.recorded) r' a).1 =
        (preDestroyAll services r a.app).1 ∧
      (preDestroyAll (services.map Service.recorded) r' a).2.2 =
        ⟨(preDestroyAll services r a.app).2.2, a.runs ++ hookRuns .preDestroy services a.app⟩ := by
  induction services generalizing r r' a with
  | nil => exact ⟨rfl, congrArg (Recorded.mk a.app) (List.append_nil a.runs).symm⟩
  | cons s services ih =>
      have hhook := s.runHook_recorded .preDestroy a
      obtain ⟨hresult, hafter⟩ := ih (r.forget s) (r'.forget s.recorded)
        (s.recorded.runHook .preDestroy a).2
      rw [hhook] at hresult hafter
      constructor
      · rw [List.map_cons, preDestroyAll_cons, hhook, hresult, preDestroyAll_cons]
      · rw [List.append_assoc] at hafter
        rw [List.map_cons, app_preDestroyAll_cons, hhook, hafter, app_preDestroyAll_cons]
        rfl

/-- What happens when the services of the copy are ended. -/
theorem preDestroyServices_recorded (r : Registry σ) (app : σ) :
    (r.recorded.preDestroyServices ⟨app, []⟩).1 = (r.preDestroyServices app).1 ∧
      (r.recorded.preDestroyServices ⟨app, []⟩).2.2 =
        ⟨(r.preDestroyServices app).2.2, hookRuns .preDestroy r.services app⟩ := by
  rw [preDestroyServices, services_recorded]
  exact preDestroyAll_recorded r.services r r.recorded ⟨app, []⟩

/-- Ending the services runs the second hook of an instance once for each path under which it is
registered, in the order of the paths, and no other hook. So it ends every instance once exactly if
none has two paths. It succeeds if all hooks do, and otherwise reports the first that fails. -/
theorem ended_by_registration (r : Registry σ) (app : σ) :
    let recorded := r.recorded.preDestroyServices ⟨app, []⟩
    let runs := recorded.2.2.runs
    let result := (r.preDestroyServices app).1
    (recorded.1 = result ∧ recorded.2.2.app = (r.preDestroyServices app).2.2) ∧
      (runs.map fun run => (run.service, run.phase)) =
        (r.services.map fun s => (s.id, LifecyclePhase.preDestroy)) ∧
      ((∀ id, r.Registers id → (runs.map HookRun.service).count id = 1) ↔
        (r.services.map Service.id).Nodup) ∧
      (result = .ok () ↔ ∀ run ∈ runs, run.succeeded = true) ∧
      ∀ e, result = .error e ↔ ∃ before s behind, r.services = before ++ s :: behind ∧
        (∀ run ∈ runs.take before.length, run.succeeded = true) ∧
        (s.runHook .preDestroy (afterHooks .preDestroy before app)).1 = .error e := by
  intro recorded runs result
  obtain ⟨hresult, hafter⟩ := preDestroyServices_recorded r app
  have hruns : runs = hookRuns .preDestroy r.services app := congrArg Recorded.runs hafter
  refine ⟨⟨hresult, congrArg Recorded.app hafter⟩, ?_, ?_, ?_, fun e => ?_⟩
  · rw [hruns, Service.map_hookRuns]
  · rw [hruns, Service.map_service_hookRuns, List.nodup_iff_count_eq_one]
    exact forall_congr' fun id => by rw [Registers, List.mem_map]
  · rw [hruns]
    exact preDestroyAll_eq_ok_iff
  · rw [hruns]
    refine preDestroyAll_eq_error_iff.trans ?_
    refine exists_congr fun before => exists_congr fun s => exists_congr fun behind => ?_
    refine and_congr_right fun hservices => ?_
    rw [hservices, Service.take_hookRuns]

/-- An instance under two paths is ended twice. -/
theorem ended_twice :
    let s : Service Unit := { id := 1, name := "S" }
    let r := (run [.addService "/x" s, .addService "/y" s] {} ()).1
    r.Registers 1 ∧
      ((r.recorded.preDestroyServices ⟨(), []⟩).2.2.runs.map HookRun.service).count 1 = 2 := by
  decide

end Registry

end ServiceDispatch
