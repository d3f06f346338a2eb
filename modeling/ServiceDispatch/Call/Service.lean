import ServiceDispatch.Call.State
import ServiceDispatch.Value.Type

/-!
# Services

A `Service` is an instance that can be deployed. Instances are told apart by their
number, not by what they declare: two services with the same name and hooks are still
two. Its hooks act on the state of the application and may fail with a reason.
-/

namespace ServiceDispatch

structure Service (σ : Type) where
  /-- The number that tells instances apart. -/
  id : Nat
  name : String
  /-- The path that the service itself asks for. -/
  basePath : Option String := none
  /-- Request filters that the service applies itself. -/
  requestFilters : List ValueType := []
  /-- Response filters that the service applies itself. -/
  responseFilters : List ValueType := []
  /-- Runs when the service is deployed. -/
  postConstruct : σ → Except String Unit × σ := fun app => (.ok (), app)
  /-- Runs before the service is removed. -/
  preDestroy : σ → Except String Unit × σ := fun app => (.ok (), app)

namespace Service

/-- Whether two services are the same instance. -/
def isSame {σ : Type} (s t : Service σ) : Bool := s.id == t.id

/-- The hook of a phase. -/
def hook {σ : Type} (s : Service σ) : LifecyclePhase → σ → Except String Unit × σ
  | .postConstruct => s.postConstruct
  | .preDestroy => s.preDestroy

/-- Runs a hook; its reason for failing becomes a failure of the registry. -/
def runHook {σ : Type} (s : Service σ) (phase : LifecyclePhase) (app : σ) :
    Except RegistryError Unit × σ :=
  match s.hook phase app with
  | (.ok (), app) => (.ok (), app)
  | (.error reason, app) => (.error (.lifecycle s.name phase reason), app)

end Service

end ServiceDispatch
