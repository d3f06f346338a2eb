import ServiceDispatch.Registry.Services
import ServiceDispatch.Proofs.Failure.MapperTable

/-!
# Histories of a registry

A `RegistryOp` is one call that may change a registry, together with the application whose hooks it
runs. What a call can do to the snapshot is said once, by `published_apply`: it leaves the snapshot,
or it publishes one in which a single part was changed in one of the ways that `Change` lists.
Whatever holds after every history of calls follows from that. Which part that is depends on the
call alone (`sameBut_apply`), so each table has a history of its own among the calls (`part_run`);
that of the mappers is sorted wherever such tables are.
-/

namespace ServiceDispatch

/-- A call that may change a registry. -/
inductive RegistryOp (σ : Type) where
  | addService (path : String) (service : Service σ)
  | addServices (services : List (Service σ))
  | removeService (service : Service σ)
  | initService (service : Service σ)
  | initServices
  | preDestroyService (service : Service σ)
  | preDestroyServices
  | deploy (path : String) (service : Service σ)
  | undeploy (service : Service σ)
  | addProvider (p : Provider σ)
  | removeProvider (key : ContextKey)
  | addRequestFilter (key : ValueType) (filter : RequestFilter σ)
  | removeRequestFilter (key : ValueType)
  | addResponseFilter (key : ValueType) (filter : ResponseFilter σ)
  | removeResponseFilter (key : ValueType)
  | addInterceptor (i : Interceptor σ)
  | removeInterceptor (id : Nat)
  | addMapper (m : Mapper)
  | addMappers (ms : List Mapper)
  | removeMapper (kind : FailureKind)
  | addConverter (c : MediaConverter)

variable {σ : Type}

/-- The registry and the application behind the call. -/
def RegistryOp.apply (r : Registry σ) (app : σ) : RegistryOp σ → Registry σ × σ
  | addService path service => (r.addService path service, app)
  | addServices services => ((r.addServices services).2, app)
  | removeService service => ((r.removeService service).2, app)
  | initService service => (r.initService service app).2
  | initServices => (r.initServices app).2
  | preDestroyService service => (r.preDestroyService service app).2
  | preDestroyServices => (r.preDestroyServices app).2
  | deploy path service => (r.deploy path service app).2
  | undeploy service => (r.undeploy service app).2
  | addProvider p => ((r.addProvider p).2, app)
  | removeProvider key => (r.removeProvider key app).2
  | addRequestFilter key filter => ((r.addRequestFilter key filter).2, app)
  | removeRequestFilter key => ((r.removeRequestFilter key).2, app)
  | addResponseFilter key filter => ((r.addResponseFilter key filter).2, app)
  | removeResponseFilter key => ((r.removeResponseFilter key).2, app)
  | addInterceptor i => (r.addInterceptor i, app)
  | removeInterceptor id => ((r.removeInterceptor id).2, app)
  | addMapper m => ((r.addMapper m).2, app)
  | addMappers ms => (r.addMappers ms, app)
  | removeMapper kind => ((r.removeMapper kind).2, app)
  | addConverter c => (r.addConverter c, app)

/-- The tables of a snapshot that calls fill. -/
inductive RegistryPart where
  | services | providers | requestFilters | responseFilters | interceptors | mappers | converters
  deriving DecidableEq

/-- The table that the call may change. Running hooks changes none. -/
def RegistryOp.part? : RegistryOp σ → Option RegistryPart
  | addService .. | addServices _ | removeService _ | deploy .. | undeploy _ => some .services
  | initService _ | initServices | preDestroyService _ | preDestroyServices => none
  | addProvider _ | removeProvider _ => some .providers
  | addRequestFilter .. | removeRequestFilter _ => some .requestFilters
  | addResponseFilter .. | removeResponseFilter _ => some .responseFilters
  | addInterceptor _ | removeInterceptor _ => some .interceptors
  | addMapper _ | addMappers _ | removeMapper _ => some .mappers
  | addConverter _ => some .converters

/-- What a call to a registry gives back. -/
inductive RegistryAnswer (σ : Type) where
  | nothing
  | told (b : Bool)
  | tried (result : Except RegistryError Unit)
  | provider (removed : Option (Provider σ))
  | mapper (removed : Option Mapper)

/-- What the call gives back. -/
def RegistryOp.answer (r : Registry σ) (app : σ) : RegistryOp σ → RegistryAnswer σ
  | addService _ _ => .nothing
  | addServices services => .tried (r.addServices services).1
  | removeService service => .told (r.removeService service).1
  | initService service => .tried (r.initService service app).1
  | initServices => .tried (r.initServices app).1
  | preDestroyService service => .tried (r.preDestroyService service app).1
  | preDestroyServices => .tried (r.preDestroyServices app).1
  | deploy path service => .tried (r.deploy path service app).1
  | undeploy service => .tried (r.undeploy service app).1
  | addProvider p => .told (r.addProvider p).1
  | removeProvider key => .provider (r.removeProvider key app).1
  | addRequestFilter key filter => .told (r.addRequestFilter key filter).1
  | removeRequestFilter key => .told (r.removeRequestFilter key).1
  | addResponseFilter key filter => .told (r.addResponseFilter key filter).1
  | removeResponseFilter key => .told (r.removeResponseFilter key).1
  | addInterceptor _ => .nothing
  | removeInterceptor id => .told (r.removeInterceptor id).1
  | addMapper m => .told (r.addMapper m).1
  | addMappers _ => .nothing
  | removeMapper kind => .mapper (r.removeMapper kind).1
  | addConverter _ => .nothing

namespace Snapshot

/-- What one call may change before the snapshot is published. -/
inductive Change (s : Snapshot σ) : Snapshot σ → Prop where
  | services (services : Table (Service σ)) : Change s { s with services }
  | providers (providers : Table (Provider σ)) : Change s { s with providers }
  | requestFilterAdded (key : ValueType) (filter : RequestFilter σ) :
      Change s { s with requestFilters := (s.requestFilters.register key filter).2 }
  | requestFilterRemoved (key : ValueType) :
      Change s { s with requestFilters := (s.requestFilters.remove key).2 }
  | responseFilterAdded (key : ValueType) (filter : ResponseFilter σ) :
      Change s { s with responseFilters := (s.responseFilters.register key filter).2 }
  | responseFilterRemoved (key : ValueType) :
      Change s { s with responseFilters := (s.responseFilters.remove key).2 }
  | interceptors (interceptors : List (Interceptor σ)) : Change s { s with interceptors }
  | mappersAdded (ms : List Mapper) :
      Change s { s with mappers := ms.foldl (fun t m => (t.insert m).2) s.mappers }
  | mapperRemoved (kind : FailureKind) : Change s { s with mappers := (s.mappers.remove kind).2 }
  | converters (converters : ConverterTable) : Change s { s with converters }

/-- A snapshot as it is published: the next version, with the derived parts made anew. -/
def publish (s : Snapshot σ) : Snapshot σ := { s.refresh with version := s.version + 1 }

/-- The second snapshot is the first or was published right after it. -/
inductive Published (s : Snapshot σ) : Snapshot σ → Prop where
  | unchanged : Published s s
  | changed {next : Snapshot σ} (change : Change s next) : Published s next.publish

/-- Both snapshots hold the same in every table but one. -/
structure SameBut (part? : Option RegistryPart) (s s' : Snapshot σ) : Prop where
  services : part? ≠ some .services → s'.services = s.services
  providers : part? ≠ some .providers → s'.providers = s.providers
  requestFilters : part? ≠ some .requestFilters → s'.requestFilters = s.requestFilters
  responseFilters : part? ≠ some .responseFilters → s'.responseFilters = s.responseFilters
  interceptors : part? ≠ some .interceptors → s'.interceptors = s.interceptors
  mappers : part? ≠ some .mappers → s'.mappers = s.mappers
  converters : part? ≠ some .converters → s'.converters = s.converters

theorem SameBut.refl {part? : Option RegistryPart} (s : Snapshot σ) : SameBut part? s s := by
  constructor <;> exact fun _ => rfl

theorem sameBut_services (s : Snapshot σ) (services : Table (Service σ)) :
    SameBut (some .services) s { s with services }.publish := by
  constructor <;> simp [publish, refresh]

theorem sameBut_providers (s : Snapshot σ) (providers : Table (Provider σ)) :
    SameBut (some .providers) s { s with providers }.publish := by
  constructor <;> simp [publish, refresh]

theorem sameBut_requestFilters (s : Snapshot σ) (requestFilters : FilterList (RequestFilter σ)) :
    SameBut (some .requestFilters) s { s with requestFilters }.publish := by
  constructor <;> simp [publish, refresh]

theorem sameBut_responseFilters (s : Snapshot σ) (responseFilters : FilterList (ResponseFilter σ)) :
    SameBut (some .responseFilters) s { s with responseFilters }.publish := by
  constructor <;> simp [publish, refresh]

theorem sameBut_interceptors (s : Snapshot σ) (interceptors : List (Interceptor σ)) :
    SameBut (some .interceptors) s { s with interceptors }.publish := by
  constructor <;> simp [publish, refresh]

theorem sameBut_mappers (s : Snapshot σ) (mappers : MapperTable) :
    SameBut (some .mappers) s { s with mappers }.publish := by
  constructor <;> simp [publish, refresh]

theorem sameBut_converters (s : Snapshot σ) (converters : ConverterTable) :
    SameBut (some .converters) s { s with converters }.publish := by
  constructor <;> simp [publish, refresh]

theorem Published.keeps {P : Snapshot σ → Prop} {s s' : Snapshot σ} (h : Published s s')
    (hchange : ∀ {s next : Snapshot σ}, Change s next → P s → P next.publish) (hs : P s) :
    P s' := by
  cases h with
  | unchanged => exact hs
  | changed change => exact hchange change hs

end Snapshot

namespace Registry

open Snapshot

theorem snapshot_update {α : Type} (r : Registry σ) (change : Snapshot σ → α × Snapshot σ) :
    (r.update change).2.snapshot = (change r.snapshot).2.publish := rfl

/-! ### Calls that publish nothing -/

@[simp] theorem snapshot_forget (service : Service σ) (r : Registry σ) :
    (r.forget service).snapshot = r.snapshot := rfl

@[simp] theorem snapshot_forgetUnregistered (service : Service σ) (r : Registry σ) :
    (r.forgetUnregistered service).snapshot = r.snapshot := by
  rw [forgetUnregistered]
  split <;> rfl

theorem snapshot_foldl_forgetUnregistered (replaced : List (Service σ)) (r : Registry σ) :
    (replaced.foldl (fun r old => r.forgetUnregistered old) r).snapshot = r.snapshot := by
  induction replaced generalizing r with
  | nil => rfl
  | cons old replaced ih => rw [List.foldl_cons, ih, snapshot_forgetUnregistered]

@[simp] theorem snapshot_initService (service : Service σ) (r : Registry σ) (app : σ) :
    (r.initService service app).2.1.snapshot = r.snapshot := by
  rw [initService]
  split
  · rfl
  · split <;> rfl

theorem snapshot_initAll (services : List (Service σ)) (r : Registry σ) (app : σ) :
    (initAll services r app).2.1.snapshot = r.snapshot := by
  induction services generalizing r app with
  | nil => rfl
  | cons service services ih =>
      have hinit := snapshot_initService service r app
      rw [initAll]
      split
      · next heq =>
        rw [ih, ← hinit, heq]
      · next heq =>
        rw [← hinit, heq]

theorem snapshot_preDestroyAll (services : List (Service σ)) (r : Registry σ) (app : σ) :
    (preDestroyAll services r app).2.1.snapshot = r.snapshot := by
  induction services generalizing r app with
  | nil => rfl
  | cons service services ih => exact ih (r.forget service) _

/-! ### Calls that publish a snapshot -/

theorem snapshot_addService (path : String) (service : Service σ) (r : Registry σ) :
    (r.addService path service).snapshot =
      { r.snapshot with services := Table.insert path service r.snapshot.services }.publish := by
  simp only [addService]
  split
  · rw [snapshot_forgetUnregistered, snapshot_update]
  · rw [snapshot_update]

theorem snapshot_removeService (service : Service σ) (r : Registry σ) :
    (r.removeService service).2.snapshot =
      { r.snapshot with
        services := r.snapshot.services.filter fun e => !service.isSame e.2 }.publish := by
  simp only [removeService]
  split
  · rw [snapshot_forget, snapshot_update]
  · rw [snapshot_update]

theorem snapshot_addServices (services : List (Service σ)) (r : Registry σ) :
    (r.addServices services).2.snapshot = match services.mapM declaredPath with
      | .error _ => r.snapshot
      | .ok entries =>
        { r.snapshot with services := (place entries r.snapshot.services).2 }.publish := by
  rw [addServices]
  cases services.mapM declaredPath with
  | error e => rfl
  | ok entries => exact snapshot_foldl_forgetUnregistered _ _

theorem snapshot_deploy (path : String) (service : Service σ) (r : Registry σ) (app : σ) :
    (r.deploy path service app).2.1.snapshot = match (r.initService service app).1 with
      | .error _ => r.snapshot
      | .ok () =>
        { r.snapshot with services := Table.insert path service r.snapshot.services }.publish := by
  have hinit := snapshot_initService service r app
  rw [deploy]
  split
  · next heq =>
    rw [heq] at hinit ⊢
    rw [snapshot_addService, hinit]
  · next heq =>
    rw [heq] at hinit ⊢
    exact hinit

theorem snapshot_undeploy (service : Service σ) (r : Registry σ) (app : σ) :
    (r.undeploy service app).2.1.snapshot = (r.removeService service).2.snapshot := by
  rw [snapshot_removeService]
  exact snapshot_removeService service (r.forget service)

theorem published_addServices (services : List (Service σ)) (r : Registry σ) :
    Published r.snapshot (r.addServices services).2.snapshot := by
  rw [snapshot_addServices]
  split
  · exact .unchanged
  · exact .changed (.services _)

theorem published_deploy (path : String) (service : Service σ) (r : Registry σ) (app : σ) :
    Published r.snapshot (r.deploy path service app).2.1.snapshot := by
  rw [snapshot_deploy]
  split
  · exact .unchanged
  · exact .changed (.services _)

theorem published_addProvider (p : Provider σ) (r : Registry σ) :
    Published r.snapshot (r.addProvider p).2.snapshot := by
  rw [addProvider, snapshot_update]
  split
  · exact .changed (.providers r.snapshot.providers)
  · exact .changed (.providers _)

/-- A call publishes one snapshot or none, and changes a single part of it. -/
theorem published_apply (r : Registry σ) (app : σ) (op : RegistryOp σ) :
    Published r.snapshot (op.apply r app).1.snapshot := by
  cases op with
  | addService path service => exact snapshot_addService path service r ▸ .changed (.services _)
  | addServices services => exact published_addServices services r
  | removeService service => exact snapshot_removeService service r ▸ .changed (.services _)
  | initService service => exact snapshot_initService service r app ▸ .unchanged
  | initServices => exact snapshot_initAll r.services r app ▸ .unchanged
  | preDestroyService service => exact .unchanged
  | preDestroyServices => exact snapshot_preDestroyAll r.services r app ▸ .unchanged
  | deploy path service => exact published_deploy path service r app
  | undeploy service =>
      rw [RegistryOp.apply, snapshot_undeploy, snapshot_removeService]
      exact .changed (.services _)
  | addProvider p => exact published_addProvider p r
  | removeProvider key => exact .changed (.providers _)
  | addRequestFilter key filter => exact .changed (.requestFilterAdded key filter)
  | removeRequestFilter key => exact .changed (.requestFilterRemoved key)
  | addResponseFilter key filter => exact .changed (.responseFilterAdded key filter)
  | removeResponseFilter key => exact .changed (.responseFilterRemoved key)
  | addInterceptor i => exact .changed (.interceptors _)
  | removeInterceptor id => exact .changed (.interceptors _)
  | addMapper m => exact .changed (.mappersAdded [m])
  | addMappers ms => exact .changed (.mappersAdded ms)
  | removeMapper kind => exact .changed (.mapperRemoved kind)
  | addConverter c => exact .changed (.converters _)

/-- A call changes no table but its own. -/
theorem sameBut_apply (r : Registry σ) (app : σ) (op : RegistryOp σ) :
    SameBut op.part? r.snapshot (op.apply r app).1.snapshot := by
  cases op with
  | addService path service =>
      rw [RegistryOp.apply, snapshot_addService]
      exact sameBut_services r.snapshot _
  | addServices services =>
      rw [RegistryOp.apply, snapshot_addServices]
      split
      · exact .refl r.snapshot
      · exact sameBut_services r.snapshot _
  | removeService service =>
      rw [RegistryOp.apply, snapshot_removeService]
      exact sameBut_services r.snapshot _
  | initService service =>
      rw [RegistryOp.apply, snapshot_initService]
      exact .refl r.snapshot
  | initServices =>
      rw [RegistryOp.apply, initServices, snapshot_initAll]
      exact .refl r.snapshot
  | preDestroyService service => exact .refl r.snapshot
  | preDestroyServices =>
      rw [RegistryOp.apply, preDestroyServices, snapshot_preDestroyAll]
      exact .refl r.snapshot
  | deploy path service =>
      rw [RegistryOp.apply, snapshot_deploy]
      split
      · exact .refl r.snapshot
      · exact sameBut_services r.snapshot _
  | undeploy service =>
      rw [RegistryOp.apply, snapshot_undeploy, snapshot_removeService]
      exact sameBut_services r.snapshot _
  | addProvider p =>
      rw [RegistryOp.apply, addProvider, snapshot_update]
      split
      · exact sameBut_providers r.snapshot r.snapshot.providers
      · exact sameBut_providers r.snapshot _
  | removeProvider key => exact sameBut_providers r.snapshot _
  | addRequestFilter key filter => exact sameBut_requestFilters r.snapshot _
  | removeRequestFilter key => exact sameBut_requestFilters r.snapshot _
  | addResponseFilter key filter => exact sameBut_responseFilters r.snapshot _
  | removeResponseFilter key => exact sameBut_responseFilters r.snapshot _
  | addInterceptor i => exact sameBut_interceptors r.snapshot _
  | removeInterceptor id => exact sameBut_interceptors r.snapshot _
  | addMapper m => exact sameBut_mappers r.snapshot _
  | addMappers ms => exact sameBut_mappers r.snapshot _
  | removeMapper kind => exact sameBut_mappers r.snapshot _
  | addConverter c => exact sameBut_converters r.snapshot _

/-- The registry and the application after a history of calls. -/
def run (ops : List (RegistryOp σ)) (r : Registry σ) (app : σ) : Registry σ × σ :=
  ops.foldl (fun s op => op.apply s.1 s.2) (r, app)

theorem run_cons (op : RegistryOp σ) (ops : List (RegistryOp σ)) (r : Registry σ) (app : σ) :
    run (op :: ops) r app = run ops (op.apply r app).1 (op.apply r app).2 := rfl

theorem run_append (ops ops' : List (RegistryOp σ)) (r : Registry σ) (app : σ) :
    run (ops ++ ops') r app = run ops' (run ops r app).1 (run ops r app).2 := List.foldl_append

/-- What the calls of a history give back, in their order. -/
def answers : List (RegistryOp σ) → Registry σ → σ → List (RegistryAnswer σ)
  | [], _, _ => []
  | op :: ops, r, app =>
    op.answer r app :: answers ops (op.apply r app).1 (op.apply r app).2

/-- What every publication keeps holds after every history. -/
theorem snapshot_run_of_change {P : Snapshot σ → Prop}
    (hchange : ∀ {s next : Snapshot σ}, Change s next → P s → P next.publish)
    (ops : List (RegistryOp σ)) {r : Registry σ} (app : σ) (hr : P r.snapshot) :
    P (run ops r app).1.snapshot := by
  induction ops generalizing r app with
  | nil => exact hr
  | cons op ops ih =>
      rw [run_cons]
      exact ih _ ((published_apply r app op).keeps hchange hr)

theorem length_answers (ops : List (RegistryOp σ)) (r : Registry σ) (app : σ) :
    (answers ops r app).length = ops.length := by
  induction ops generalizing r app with
  | nil => rfl
  | cons op ops ih => rw [answers, List.length_cons, ih, List.length_cons]

/-! ### Parts of a snapshot with a history of their own -/

variable {τ γ : Type} {part : Snapshot σ → τ} {step : τ → γ → τ}

/-- If what each call does to a part of the snapshot can be told from the call and its answer, the
part after a history is that after all that the calls have done to it. -/
theorem part_run (changes : RegistryOp σ → RegistryAnswer σ → List γ)
    (happly : ∀ (r : Registry σ) (app : σ) (op : RegistryOp σ),
      part (op.apply r app).1.snapshot =
        (changes op (op.answer r app)).foldl step (part r.snapshot))
    (ops : List (RegistryOp σ)) (r : Registry σ) (app : σ) :
    part (run ops r app).1.snapshot = ((ops.zip (answers ops r app)).flatMap fun call =>
      changes call.1 call.2).foldl step (part r.snapshot) := by
  induction ops generalizing r app with
  | nil => rfl
  | cons op ops ih =>
      rw [run_cons, ih, happly, answers, List.zip_cons_cons, List.flatMap_cons, List.foldl_append]

theorem part_run_of_call {changes : RegistryOp σ → List γ}
    (happly : ∀ (r : Registry σ) (app : σ) (op : RegistryOp σ),
      part (op.apply r app).1.snapshot = (changes op).foldl step (part r.snapshot))
    (ops : List (RegistryOp σ)) (r : Registry σ) (app : σ) :
    part (run ops r app).1.snapshot = (ops.flatMap changes).foldl step (part r.snapshot) := by
  have hops : (ops.zip (answers ops r app)).map Prod.fst = ops :=
    List.map_fst_zip (Nat.le_of_eq (length_answers ops r app).symm)
  have hrun := part_run (fun op _ => changes op) happly ops r app
  rwa [← List.flatMap_map, hops] at hrun

end Registry

/-! ### Mappers after a history -/

/-- What the call does to the table of mappers. -/
def RegistryOp.mapperOps : RegistryOp σ → List MapperOp
  | addMapper m => [.insert m]
  | addMappers ms => ms.map .insert
  | removeMapper kind => [.remove kind]
  | _ => []

namespace Registry

theorem mappers_apply (r : Registry σ) (app : σ) (op : RegistryOp σ) :
    (op.apply r app).1.snapshot.mappers =
      op.mapperOps.foldl MapperOp.apply r.snapshot.mappers := by
  cases op with
  | addMapper m => rfl
  | addMappers ms =>
      rw [RegistryOp.mapperOps, List.foldl_map]
      rfl
  | removeMapper kind => rfl
  | _ => exact (sameBut_apply r app _).mappers (by rintro ⟨⟩)

/-- The mappers are those of the history of their table, which begins with the standard one. -/
theorem mappers_run (config : DispatchConfig) (ops : List (RegistryOp σ)) (app : σ) :
    (run ops { config } app).1.snapshot.mappers =
      MapperTable.run (.insert .standard :: ops.flatMap RegistryOp.mapperOps) :=
  part_run_of_call mappers_apply ops { config } app

/-- If kinds are told by their names, the mappers are sorted after every history, so that a failure
is answered by the deepest mapper that fits. -/
theorem ordered_mappers_run (config : DispatchConfig) (ops : List (RegistryOp σ)) (app : σ)
    (hks : FailureKind.NamedApart
      (FailureKind.dispatch :: (ops.flatMap RegistryOp.mapperOps).map MapperOp.kind)) :
    (run ops { config } app).1.snapshot.mappers.Ordered := by
  rw [mappers_run]
  refine (MapperTable.run_spec ?_).1
  exact hks

end Registry

end ServiceDispatch
