import ServiceDispatch.Proofs.Dispatch.Stages
import ServiceDispatch.Proofs.Http.Header

/-!
# Full responses of handlers

A handler may reply a whole response. It is written over what the sink holds, and the sink is the
answer. Where nothing else takes part in the call, the answer has the status and the body of the
response and its headers, but of a header with several values only the last one.
-/

namespace ServiceDispatch

namespace Dispatch

variable {σ : Type}

/-- No filter and no interceptor takes part in the calls to a service. -/
structure Bare (s : Snapshot σ) (service : Service σ) : Prop where
  requestFilters : s.requestFiltersFor service = []
  responseFilters : s.responseFiltersFor service = []
  interceptors : s.interceptors = []

section Bare

variable {sc : Binding.Scope σ} (hbare : Bare sc.snapshot sc.model.service)
include hbare

theorem Bare.runRequest_eq (st : CallState σ) (d : Disk) :
    runRequest sc st d = bindAndRun sc st d := by
  simp only [runRequest, hbare.requestFilters, runRequestFilters, runMethod, hbare.interceptors,
    runPreCalls]

theorem Bare.complete_eq (o : Outcome σ) :
    complete sc o = (o.response, o.state, o.scratch.drop o.disk) := by
  simp only [complete, hbare.responseFilters, runResponseFilters]

/-- What the handler's reply makes is the answer. -/
theorem Bare.runHandler_eq {b b' : BoundCall σ} {d : Disk} {st : CallState σ}
    {st' : HandlerState σ} {reply : Reply}
    (replied : b.invoke d { toCallState := st } = (.ok reply, st', b')) :
    (runHandler sc b d st).1 = (answer sc.snapshot b' reply st').1 := by
  simp only [runHandler, replied, hbare.interceptors, runPostCalls]

end Bare

/-- A call that is bound and that nothing else takes part in is answered by its handler alone. -/
theorem Bare.run_eq {registry : Registry σ} {model : ResourceModel σ} {request : Request}
    {captures : Table String} {w : World σ} {b b' : BoundCall σ} {call' : CallState σ} {d : Disk}
    {st : HandlerState σ} {reply : Reply} (hbare : Bare registry.snapshot model.service)
    (bound : Binding.bind (scope registry model request captures) ⟨w.app, w.fields, {}⟩ w.disk =
      (.ok b, call', d))
    (replied : b.invoke d { toCallState := call' } = (.ok reply, st, b')) :
    (run registry model request captures w).1 = (answer registry.snapshot b' reply st).1 := by
  have hrun : (run registry model request captures w).1 =
      (complete (scope registry model request captures)
        (runRequest (scope registry model request captures) ⟨w.app, w.fields, {}⟩ w.disk)).1 := rfl
  have hscope : Bare (scope registry model request captures).snapshot
      (scope registry model request captures).model.service := hbare
  rw [hrun, hscope.complete_eq, hscope.runRequest_eq, bindAndRun, bound]
  exact hscope.runHandler_eq replied

/-- The answer to a call that nothing else takes part in, whose handler wrote nothing and replied a
response, is what a fresh sink makes of the response. That has its status, its body and of each
header the last value, so it is the response exactly if no header has two values. -/
theorem run_replied (registry : Registry σ) (model : ResourceModel σ) (request : Request)
    (captures : Table String) (w : World σ) {b b' : BoundCall σ} {call' : CallState σ} {d : Disk}
    {st : HandlerState σ} {r : Response} (hwf : r.headers.WellFormed)
    (hbare : Bare registry.snapshot model.service)
    (bound : Binding.bind (scope registry model request captures) ⟨w.app, w.fields, {}⟩ w.disk =
      (.ok b, call', d))
    (replied : b.invoke d { toCallState := call' } = (.ok (.response r), st, b'))
    (hsink : st.sink = {}) :
    let given := (({} : Sink).apply r).toResponse
    (run registry model request captures w).1 = given ∧
      given.status = r.status ∧ given.body = r.body ∧
      (∀ name, Headers.values name given.headers =
        (Headers.values name r.headers).getLast?.toList) ∧
      (given = r ↔ ∀ name, (Headers.values name r.headers).length ≤ 1) := by
  intro given
  refine ⟨?_, rfl, rfl, Sink.values_apply hwf, Sink.toResponse_apply_eq_iff hwf⟩
  rw [hbare.run_eq bound replied, answer, hsink]

/-- A reply that sets cookies. -/
def cookieReply (cookies : List String) : Response where
  status := 200
  headers := .ofList (cookies.map fun c => ("Set-Cookie", Utf8.encode c))
  body := Utf8.encode "ok"

/-- A method that replies so. -/
def setsCookies (cookies : List String) : ResourceModel Unit where
  name := "login"
  service := { id := 0, name := "sessions" }
  handler := fun _ _ st => (.ok (.response (cookieReply cookies)), st)

theorem run_replied_cookie :
    let r := cookieReply ["a=1"]
    (run {} (setsCookies ["a=1"]) { method := "POST", uri := "/" } [] { app := () }).1 = r ∧
      Headers.values "Set-Cookie" r.headers = [Utf8.encode "a=1"] := by
  intro r
  have hbare : Bare ({} : Registry Unit).snapshot (setsCookies ["a=1"]).service := ⟨rfl, rfl, rfl⟩
  have hwf : r.headers.WellFormed := Headers.wellFormed_ofList _
  obtain ⟨hrun, -, -, -, heq⟩ := run_replied {} (setsCookies ["a=1"])
    { method := "POST", uri := "/" } [] { app := () } hwf hbare rfl rfl rfl
  have hle : ∀ name, (Headers.values name r.headers).length ≤ 1 := by
    intro name
    rw [show r.headers = .ofList [("Set-Cookie", Utf8.encode "a=1")] from rfl,
      Headers.values_ofList, List.length_map]
    exact List.length_filter_le _ _
  exact ⟨hrun.trans (heq.2 hle), Headers.values_ofList _ _⟩

/-- Of two cookies only the second reaches the client. -/
theorem run_two_cookies :
    let r := cookieReply ["a=1", "b=2"]
    (({} : Sink).apply r).toResponse ≠ r ∧
      (run {} (setsCookies ["a=1", "b=2"]) { method := "POST", uri := "/" } []
        { app := () }).1 ≠ r := by
  decide +kernel

end Dispatch

end ServiceDispatch
