import ServiceDispatch.Registry.Basic

/-!
# Services of a registry

Adding and removing services, and the hooks in their lives. The first hook of an
instance is not run again while the instance is noted as initialized; the note goes
when the last registration of the instance goes, or when its second hook runs.
Deploying runs the first hook and then adds the service; undeploying runs the second
hook and then removes the service even if the hook failed.
-/

namespace ServiceDispatch

namespace Registry

variable {σ : Type}

/-- Drops the note that an instance is initialized. -/
def forget (service : Service σ) (r : Registry σ) : Registry σ :=
  { r with initialized := r.initialized.filter (· != service.id) }

/-- Drops the note of an instance that is registered nowhere. -/
def forgetUnregistered (service : Service σ) (r : Registry σ) : Registry σ :=
  if r.snapshot.holds service then r else r.forget service

/-- Registers a service under a path, in place of what was there. -/
def addService (path : String) (service : Service σ) (r : Registry σ) : Registry σ :=
  let (replaced, r) := r.update fun s =>
    (s.serviceAt? path, { s with services := Table.insert path service s.services })
  match replaced with
  | some old => r.forgetUnregistered old
  | none => r

/-- Puts services under their paths one after the other, and gives those replaced. -/
def place (entries : List (String × Service σ)) (services : Table (Service σ)) :
    List (Service σ) × Table (Service σ) :=
  entries.foldl (fun acc e =>
    (acc.1 ++ (Table.get? e.1 acc.2).toList, Table.insert e.1 e.2 acc.2)) ([], services)

/-- A service with the path that it asks for. -/
def declaredPath (service : Service σ) : Except RegistryError (String × Service σ) :=
  match service.basePath with
  | some path => .ok (path, service)
  | none => .error (.missingBasePath service.name)

/-- Registers services under the paths that they ask for, all in one change or, if one
asks for none, not at all. -/
def addServices (services : List (Service σ)) (r : Registry σ) :
    Except RegistryError Unit × Registry σ :=
  match services.mapM declaredPath with
  | .error e => (.error e, r)
  | .ok entries =>
    let (replaced, r) := r.update fun s =>
      let (replaced, services) := place entries s.services
      (replaced, { s with services })
    (.ok (), replaced.foldl (fun r old => r.forgetUnregistered old) r)

/-- Removes every registration of an instance; tells whether there was one. -/
def removeService (service : Service σ) (r : Registry σ) : Bool × Registry σ :=
  let (removed, r) := r.update fun s =>
    (s.holds service, { s with services := s.services.filter fun e => !service.isSame e.2 })
  (removed, if removed then r.forget service else r)

/-- The registered services in the order of their paths. -/
def services (r : Registry σ) : List (Service σ) := Table.values r.snapshot.services

/-- Runs the first hook of an instance, unless it is noted as initialized. -/
def initService (service : Service σ) (r : Registry σ) (app : σ) :
    Except RegistryError Unit × Registry σ × σ :=
  if r.initialized.contains service.id then (.ok (), r, app)
  else match service.runHook .postConstruct app with
    | (.ok (), app) => (.ok (), { r with initialized := service.id :: r.initialized }, app)
    | (.error e, app) => (.error e, r, app)

/-- Initializes services in order, up to the first failure. -/
def initAll : List (Service σ) → Registry σ → σ → Except RegistryError Unit × Registry σ × σ
  | [], r, app => (.ok (), r, app)
  | service :: services, r, app =>
    match r.initService service app with
    | (.ok (), r, app) => initAll services r app
    | (.error e, r, app) => (.error e, r, app)

/-- Initializes all registered services. -/
def initServices (r : Registry σ) (app : σ) : Except RegistryError Unit × Registry σ × σ :=
  initAll r.services r app

/-- Drops the note of an instance and runs its second hook. -/
def preDestroyService (service : Service σ) (r : Registry σ) (app : σ) :
    Except RegistryError Unit × Registry σ × σ :=
  let (result, app) := service.runHook .preDestroy app
  (result, r.forget service, app)

/-- The first failure of two attempts in a row. -/
def firstFailure (a b : Except RegistryError Unit) : Except RegistryError Unit :=
  match a with
  | .error e => .error e
  | .ok () => b

/-- Runs the second hooks of services in order, and reports the first failure. -/
def preDestroyAll : List (Service σ) → Registry σ → σ →
    Except RegistryError Unit × Registry σ × σ
  | [], r, app => (.ok (), r, app)
  | service :: services, r, app =>
    let (first, r, app) := r.preDestroyService service app
    let (others, r, app) := preDestroyAll services r app
    (firstFailure first others, r, app)

/-- Runs the second hook for every registration. -/
def preDestroyServices (r : Registry σ) (app : σ) : Except RegistryError Unit × Registry σ × σ :=
  preDestroyAll r.services r app

/-- Initializes a service and then registers it; a failing hook leaves it out. -/
def deploy (path : String) (service : Service σ) (r : Registry σ) (app : σ) :
    Except RegistryError Unit × Registry σ × σ :=
  match r.initService service app with
  | (.ok (), r, app) => (.ok (), r.addService path service, app)
  | (.error e, r, app) => (.error e, r, app)

/-- Runs the second hook of a service and then removes it, whatever the hook said. -/
def undeploy (service : Service σ) (r : Registry σ) (app : σ) :
    Except RegistryError Unit × Registry σ × σ :=
  let (result, r, app) := r.preDestroyService service app
  (result, (r.removeService service).2, app)

end Registry

end ServiceDispatch
