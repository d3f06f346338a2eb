import ServiceDispatch.Failure.Kind
import ServiceDispatch.Form.Error

/-!
# Failures

A `Failure` is what stops a call: something that a filter, an interceptor, a provider
or a handler raises, a parameter that cannot be bound, or an operation of the registry
that is refused. Each has a kind, by which a mapper for it is found, and a message.
-/

namespace ServiceDispatch

/-- Why one argument cannot be bound. -/
inductive BindingCause where
  | missingParameter (key : String)
  | conversion (key target reason : String)
  | unresolvedContext (typeName : String)
  | context (target reason : String)
  | form (e : FormError)
  deriving DecidableEq, Repr

namespace BindingCause

/-- The name of the cause in reports. -/
def code : BindingCause → String
  | missingParameter _ => "MissingParameter"
  | conversion _ _ _ => "Conversion"
  | unresolvedContext _ => "UnresolvedContextType"
  | context _ _ => "Binding"
  | form _ => "FormParsing"

def message : BindingCause → String
  | missingParameter key => s!"Could not resolve value for parameter {key}"
  | conversion key target reason => s!"Could not convert parameter {key} to {target}: {reason}"
  | unresolvedContext typeName => s!"Unresolved context type: {typeName}"
  | context target reason => s!"Could not bind context {target}: {reason}"
  | form e => s!"Form parsing error: {e.message}"

def kind : BindingCause → FailureKind
  | missingParameter _ => .missingParameter
  | conversion _ _ _ => .conversion
  | unresolvedContext _ => .unresolvedContext
  | context _ _ => .contextBinding
  | form _ => .formParsing

/-- The status that answers the failure: the request is at fault if it lacks a value,
holds a wrong one, or carries no proper form. -/
def status : BindingCause → Nat
  | missingParameter _ => 400
  | conversion _ _ _ => 400
  | form e => if e.isClientError then 400 else 500
  | unresolvedContext _ => 500
  | context _ _ => 500

end BindingCause

/-- The failure to bind the arguments of a method to a request. -/
structure BindingError where
  method : String
  line : String
  cause : BindingCause
  deriving DecidableEq, Repr

namespace BindingError

def message (e : BindingError) : String :=
  s!"Failed to bind arguments of {e.method} for '{e.line}': {e.cause.message}"

def status (e : BindingError) : Nat := e.cause.status

def isClientError (e : BindingError) : Bool := 400 ≤ e.status && e.status < 500

def isServerError (e : BindingError) : Bool := 500 ≤ e.status && e.status < 600

end BindingError

/-- The hooks in the life of a service. -/
inductive LifecyclePhase where
  | postConstruct
  | preDestroy
  deriving DecidableEq, Repr

def LifecyclePhase.name : LifecyclePhase → String
  | .postConstruct => "post-construct"
  | .preDestroy => "pre-destroy"

/-- Why the registry refuses an operation. -/
inductive RegistryError where
  | missingBasePath (service : String)
  | lifecycle (service : String) (phase : LifecyclePhase) (reason : String)
  deriving DecidableEq, Repr

namespace RegistryError

/-- The name of the error in reports. -/
def code : RegistryError → String
  | missingBasePath _ => "MissingBasePath"
  | lifecycle _ _ _ => "Lifecycle"

def message : RegistryError → String
  | missingBasePath service => s!"Service {service} does not declare a base path"
  | lifecycle service phase reason =>
    s!"The {phase.name} hook of service {service} failed: {reason}"

def kind : RegistryError → FailureKind
  | missingBasePath _ => .registry
  | lifecycle _ _ _ => .lifecycle

def status (_ : RegistryError) : Nat := 500

end RegistryError

/-- What stops a call. -/
inductive Failure where
  /-- A failure that the application raises. -/
  | raised (kind : FailureKind) (message : String)
  | binding (e : BindingError)
  | registry (e : RegistryError)
  deriving DecidableEq, Repr

namespace Failure

def kind : Failure → FailureKind
  | raised kind _ => kind
  | binding e => e.cause.kind
  | registry e => e.kind

def message : Failure → String
  | raised _ message => message
  | binding e => e.message
  | registry e => e.message

end Failure

end ServiceDispatch
