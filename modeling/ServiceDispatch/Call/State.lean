import ServiceDispatch.Failure.Error
import ServiceDispatch.Form.Disk
import ServiceDispatch.Http.Response
import ServiceDispatch.Value.Basic

/-!
# What a call reads and writes

The code that an application hangs into a call acts on a `CallState`: the state of the
application, which is of any type `σ`, the context fields of the services, and the sink
that the answer is written to. A handler sees in addition the chunk stream of the call.
Between calls a `World` remains: the application, the fields and the disk.

Fields outlive the call that filled them, because a service is shared by all calls to
it. The disk is not part of a `CallState`, so uploads change only where the library
says so.
-/

namespace ServiceDispatch

/-- A field of a service with the value that was injected last. -/
structure ContextSlot where
  /-- The number of the service. -/
  service : Nat
  field : String
  value : Value

/-- The context fields that hold a value. -/
abbrev ContextFields := List ContextSlot

namespace ContextFields

/-- Whether a slot is for the given field of the given service. -/
def isFor (service : Nat) (field : String) (s : ContextSlot) : Bool :=
  s.service == service && s.field == field

/-- The value of a field, if it holds one. -/
def get? (service : Nat) (field : String) (fs : ContextFields) : Option Value :=
  (fs.find? (isFor service field)).map ContextSlot.value

/-- Fills a field; an absent argument empties it. -/
def set (service : Nat) (field : String) (arg : Arg) (fs : ContextFields) : ContextFields :=
  let others := fs.filter fun s => !isFor service field s
  match arg with
  | some value => ⟨service, field, value⟩ :: others
  | none => others

theorem get?_set_self (service : Nat) (field : String) (arg : Arg) (fs : ContextFields) :
    get? service field (set service field arg fs) = arg := by
  cases arg with
  | none =>
    have h : (fs.filter fun s => !isFor service field s).find? (isFor service field) = none := by
      simp [List.find?_eq_none]
    simp [set, get?, h]
  | some value => simp [set, get?, isFor]

end ContextFields

/-- What remains between calls. -/
structure World (σ : Type) where
  app : σ
  fields : ContextFields := []
  disk : Disk := {}

/-- What filters, interceptors and providers act on. -/
structure CallState (σ : Type) where
  app : σ
  fields : ContextFields := []
  sink : Sink := {}

/-- What a handler acts on. -/
structure HandlerState (σ : Type) extends CallState σ where
  stream : ChunkStream := {}

/-- Whether a call goes on, or is answered with what the sink holds. -/
inductive Flow where
  | proceed
  | halt
  deriving DecidableEq, Repr

end ServiceDispatch
