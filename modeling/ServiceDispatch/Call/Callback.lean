import ServiceDispatch.Call.Service
import ServiceDispatch.Context
import ServiceDispatch.Http.Request
import ServiceDispatch.Text.Quoted

/-!
# Code around a handler

Filters see a request before and a response after everything else; interceptors stand
around one method; providers make the values of a context. All of them act on the state
of the call and may fail, which ends the call with an answer to the failure.
-/

namespace ServiceDispatch

/-- The call that an interceptor or a provider runs for. -/
structure CallContext (σ : Type) where
  /-- The name of the method. -/
  method : String
  service : Service σ
  request : Request

/-- How a call is shown to a provider. -/
def CallContext.describe {σ : Type} (c : CallContext σ) : String :=
  Text.record "HttpMethodContext"
    [("method", Text.quoted c.method), ("handler", Text.quoted c.service.name),
     ("request", Text.quoted c.request.line)]

/-- Runs before interceptors and binding. -/
abbrev RequestFilter (σ : Type) :=
  Request → CallState σ → Except Failure Flow × CallState σ

/-- Runs on the finished response, including the answers to failures. -/
abbrev ResponseFilter (σ : Type) :=
  Request → Response → CallState σ → Except Failure Unit × Response × CallState σ

structure Interceptor (σ : Type) where
  /-- The number that tells instances apart. -/
  id : Nat
  name : String
  /-- Runs before the arguments are bound. -/
  preCall : CallContext σ → CallState σ → Except Failure Flow × CallState σ :=
    fun _ st => (.ok .proceed, st)
  /-- Runs when the handler has been answered for. -/
  postCall : CallContext σ → Response → CallState σ → Except Failure Unit × CallState σ :=
    fun _ _ st => (.ok (), st)

/-- Makes the values of one context key. -/
structure Provider (σ : Type) where
  key : ContextKey
  /-- Makes a value, which may be absent, or fails with a reason. -/
  create : CallContext σ → CallState σ → Except String Arg × CallState σ
  /-- Runs when the provider is removed. -/
  onRemove : σ → σ := fun app => app

end ServiceDispatch
