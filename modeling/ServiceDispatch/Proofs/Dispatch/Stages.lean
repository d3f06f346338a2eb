import ServiceDispatch.Dispatch
import ServiceDispatch.Proofs.Call.InOrder
import ServiceDispatch.Proofs.Failure.MapperTable

/-!
# Stages of a call

A call passes six stages: request filters, first halves of interceptors, binding, the handler,
second halves, response filters. A `Trace` records what ran in each of them, every run with the
state that it was given and the state that it left, and `Trace.Follows` says which trace belongs to
a call: which callbacks run, in which order and on what, and that the handler of the model runs once
on what was bound. There is exactly one, and the answer to the call is read from it.

What ran before the response filters settles the response that they are given (`Hands`). This is
shown from the handler outwards, for each of the functions that dispatch is made of.
-/

namespace ServiceDispatch

open CallbackRun

namespace Dispatch

variable {σ : Type}

/-- What binding is given for a request. -/
def scope (registry : Registry σ) (model : ResourceModel σ) (request : Request)
    (captures : Table String) : Binding.Scope σ :=
  { config := registry.config, snapshot := registry.snapshot, model, request, captures }

/-- Whether a result lets the call go on. -/
def proceeds : Except Failure Flow → Bool
  | .ok .proceed => true
  | _ => false

/-- Whether a result answers the call with what the sink holds. -/
def halts : Except Failure Flow → Bool
  | .ok .halt => true
  | _ => false

/-- The failure that a result is, if it is one. -/
def failure? {α : Type} : Except Failure α → Option Failure
  | .error failure => some failure
  | .ok _ => none

/-- The answer that is made of what the handler gave for a bound call, and the state behind it. -/
def answered (s : Snapshot σ) :
    BoundCall σ × Except Failure Reply × HandlerState σ → Response × CallState σ
  | (b, .ok reply, st) => ((answer s b reply st).1, (answer s b reply st).2.toCallState)
  | (_, .error failure, st) => (s.mappers.respond failure, st.toCallState)

/-- All that ran for one call, stage by stage. -/
structure Trace (σ : Type) where
  requestFilters : List (CallbackRun (RequestFilter σ) (CallState σ) (Except Failure Flow))
  preCalls : List (CallbackRun (Interceptor σ) (CallState σ) (Except Failure Flow))
  /-- What binding gave, if it was done, with the state and the disk that it left. -/
  binding : Option (Except BindingError (BoundCall σ) × CallState σ × Disk)
  /-- The bound call that the handler ran for, if it ran, with what it gave and left. -/
  handler : Option (BoundCall σ × Except Failure Reply × HandlerState σ)
  postCalls : List (CallbackRun (Interceptor σ) (CallState σ) (Except Failure Unit))
  /-- The response that the response filters are given. -/
  handed : Response
  responseFilters :
    List (CallbackRun (ResponseFilter σ) (Response × CallState σ) (Except Failure Unit))
  /-- The answer to the call. -/
  response : Response

namespace Trace

/-- All request filters let the call go on. -/
def filtered (t : Trace σ) : Bool := t.requestFilters.all fun run => proceeds run.result

/-- All request filters and first halves let the call go on. -/
def prepared (t : Trace σ) : Bool := t.filtered && t.preCalls.all fun run => proceeds run.result

/-- A request filter or a first half halted the call. -/
def halted (t : Trace σ) : Bool :=
  (t.requestFilters.any fun run => halts run.result) || t.preCalls.any fun run => halts run.result

/-- The failures before the response filters, in order. -/
def failures (t : Trace σ) : List Failure :=
  t.requestFilters.filterMap (fun run => failure? run.result) ++
    t.preCalls.filterMap (fun run => failure? run.result) ++
    (t.binding.bind fun bound => failure? (bound.1.mapError .binding)).toList ++
    (t.handler.bind fun ran => failure? ran.2.1).toList ++
    t.postCalls.filterMap (fun run => failure? run.result)

/-- The state that the first halves left, or the request filters if none of these ran. -/
def beforeBinding (t : Trace σ) (st : CallState σ) : CallState σ :=
  lastLeft (lastLeft st t.requestFilters) t.preCalls

/-- The state that the second halves are run on, if they are. -/
def beforePostCalls (t : Trace σ) (s : Snapshot σ) (st : CallState σ) : CallState σ :=
  match t.handler, t.binding with
  | some ran, _ => (answered s ran).2
  | none, some bound => bound.2.1
  | none, none => t.beforeBinding st

def beforeResponseFilters (t : Trace σ) (s : Snapshot σ) (st : CallState σ) : CallState σ :=
  lastLeft (t.beforePostCalls s st) t.postCalls

/-- The response and the state that the response filters left. -/
def final (t : Trace σ) (s : Snapshot σ) (st : CallState σ) : Response × CallState σ :=
  lastLeft (t.handed, t.beforeResponseFilters s st) t.responseFilters

/-- What ran before the response filters, for a call that begins in a state and with a disk. -/
structure Ran (t : Trace σ) (sc : Binding.Scope σ) (st : CallState σ) (d : Disk) : Prop where
  /-- The global request filters run, then those that the service declares; a key that is not
  registered is skipped. -/
  requestFilters : InOrder (fun filter st => filter sc.request st) proceeds
    (sc.snapshot.globalRequestFilters.map Prod.snd ++
      sc.model.service.requestFilters.filterMap fun key => sc.snapshot.requestFilters.lookup key)
    st t.requestFilters
  /-- Only if all request filters let the call go on, first halves run. -/
  preCalls : if t.filtered
    then InOrder (fun i st => i.preCall (sc.model.context sc.request) st) proceeds
      sc.snapshot.interceptors (lastLeft st t.requestFilters) t.preCalls
    else t.preCalls = []
  /-- Only if these do too, the arguments are bound. -/
  binding : t.binding =
    if t.prepared then some (Binding.bind sc (t.beforeBinding st) d) else none
  /-- Only if they can be bound, the handler of the model runs, once, on what was bound and on the
  state and the disk that binding left. -/
  handler : t.handler = match t.binding with
    | some (.ok b, st, d) =>
      some (b, sc.model.handler ⟨b.args, b.form, b.streaming⟩ d { toCallState := st })
    | _ => none
  /-- Only if the handler ran, whatever it gave, second halves run on the answer to it. -/
  postCalls : match t.handler with
    | some ran => InOrder
        (fun i st => i.postCall (sc.model.context sc.request) (answered sc.snapshot ran).1 st)
        Except.isOk sc.snapshot.interceptors (answered sc.snapshot ran).2 t.postCalls
    | none => t.postCalls = []

/-- The response that comes of what ran. -/
structure Hands (t : Trace σ) (s : Snapshot σ) (st : CallState σ) (response : Response) :
    Prop where
  /-- If something failed, it is the answer to what failed last. -/
  failed : ∀ failure, t.failures.getLast? = some failure → response = s.mappers.respond failure
  halted : t.halted = true → response = (t.beforeBinding st).sink.toResponse
  /-- If nothing failed or halted the call, it is the rendered reply. -/
  replied : t.failures = [] → t.halted = false → ∃ b reply st,
    t.handler = some (b, .ok reply, st) ∧ response = (answer s b reply st).1

/-- The trace of a call that begins in a state and with a disk. -/
structure Follows (t : Trace σ) (sc : Binding.Scope σ) (st : CallState σ) (d : Disk) : Prop
    extends t.Ran sc st d where
  handed : t.Hands sc.snapshot st t.handed
  /-- In any case, response filters run: the global ones, then those that the service declares. -/
  responseFilters : InOrder (fun filter given => filter sc.request given.1 given.2) Except.isOk
    (sc.snapshot.globalResponseFilters.map Prod.snd ++
      sc.model.service.responseFilters.filterMap fun key => sc.snapshot.responseFilters.lookup key)
    (t.handed, t.beforeResponseFilters sc.snapshot st) t.responseFilters
  response : t.response =
    match lastResult (.ok ()) t.responseFilters with
    | .error failure => sc.snapshot.mappers.respond failure
    | .ok () => (t.final sc.snapshot st).1

end Trace

/-! ### The filters of a service -/

theorem requestFiltersFor_eq (s : Snapshot σ) (service : Service σ) :
    s.requestFiltersFor service = s.globalRequestFilters.map Prod.snd ++
      service.requestFilters.filterMap fun key => s.requestFilters.lookup key := by
  simp only [Snapshot.requestFiltersFor, FilterList.find?_eq_lookup]

theorem responseFiltersFor_eq (s : Snapshot σ) (service : Service σ) :
    s.responseFiltersFor service = s.globalResponseFilters.map Prod.snd ++
      service.responseFilters.filterMap fun key => s.responseFilters.lookup key := by
  simp only [Snapshot.responseFiltersFor, FilterList.find?_eq_lookup]

/-! ### The loops over callbacks -/

theorem proceeds_iff {e : Except Failure Flow} : proceeds e = true ↔ e = .ok .proceed := by
  rcases e with failure | ⟨⟨⟩ | ⟨⟩⟩ <;> simp [proceeds]

theorem runRequestFilters_eq {r : Request} {filters : List (RequestFilter σ)} {st : CallState σ}
    {runs : List (CallbackRun (RequestFilter σ) (CallState σ) (Except Failure Flow))}
    (h : InOrder (fun filter st => filter r st) proceeds filters st runs) :
    runRequestFilters r filters st = (lastResult (.ok .proceed) runs, lastLeft st runs) := by
  refine h.loop_eq (runRequestFilters r) (fun st => rfl) (fun filter filters st => ?_)
    fun e => proceeds_iff.1
  rcases hran : filter r st with ⟨failure | ⟨⟨⟩ | ⟨⟩⟩, st'⟩ <;>
    simp [runRequestFilters, hran, proceeds]

theorem runPreCalls_eq {c : CallContext σ} {interceptors : List (Interceptor σ)} {st : CallState σ}
    {runs : List (CallbackRun (Interceptor σ) (CallState σ) (Except Failure Flow))}
    (h : InOrder (fun i st => i.preCall c st) proceeds interceptors st runs) :
    runPreCalls c interceptors st = (lastResult (.ok .proceed) runs, lastLeft st runs) := by
  refine h.loop_eq (runPreCalls c) (fun st => rfl) (fun i interceptors st => ?_)
    fun e => proceeds_iff.1
  rcases hran : i.preCall c st with ⟨failure | ⟨⟨⟩ | ⟨⟩⟩, st'⟩ <;>
    simp [runPreCalls, hran, proceeds]

theorem runResponseFilters_eq {r : Request} {filters : List (ResponseFilter σ)}
    {response : Response} {st : CallState σ}
    {runs : List (CallbackRun (ResponseFilter σ) (Response × CallState σ) (Except Failure Unit))}
    (h : InOrder (fun filter given => filter r given.1 given.2) Except.isOk filters (response, st)
      runs) :
    runResponseFilters r filters response st =
      (lastResult (.ok ()) runs, lastLeft (response, st) runs) := by
  refine h.loop_eq (fun filters given => runResponseFilters r filters given.1 given.2)
    (fun given => rfl) (fun filter filters given => ?_) fun e he => ?_
  · rcases hran : filter r given.1 given.2 with ⟨failure | ⟨⟨⟩⟩, given'⟩ <;>
      simp [runResponseFilters, hran, Except.isOk, Except.toBool]
  · cases e with
    | error failure => cases he
    | ok result => rfl

theorem complete_eq {sc : Binding.Scope σ} {o : Outcome σ}
    {runs : List (CallbackRun (ResponseFilter σ) (Response × CallState σ) (Except Failure Unit))}
    (h : InOrder (fun filter given => filter sc.request given.1 given.2) Except.isOk
      (sc.snapshot.responseFiltersFor sc.model.service) (o.response, o.state) runs) :
    complete sc o =
      ((match lastResult (.ok ()) runs with
        | .error failure => sc.snapshot.mappers.respond failure
        | .ok () => (lastLeft (o.response, o.state) runs).1),
        (lastLeft (o.response, o.state) runs).2, o.scratch.drop o.disk) := by
  rw [complete, runResponseFilters_eq h]
  cases lastResult (.ok ()) runs <;> rfl

theorem runPostCalls_eq (mappers : MapperTable) {c : CallContext σ} {response : Response}
    {interceptors : List (Interceptor σ)} {st : CallState σ}
    {runs : List (CallbackRun (Interceptor σ) (CallState σ) (Except Failure Unit))}
    (h : InOrder (fun i st => i.postCall c response st) Except.isOk interceptors st runs) :
    runPostCalls mappers c response interceptors st =
      ((match lastResult (.ok ()) runs with
        | .error failure => mappers.respond failure
        | .ok () => response), lastLeft st runs) := by
  induction h with
  | done st => rfl
  | @next i interceptors st runs on rest ih =>
      rcases hran : i.postCall c response st with ⟨failure | ⟨⟨⟩⟩, st'⟩
      · rw [hran] at on
        cases on
      · rw [hran] at ih
        rw [runPostCalls, hran, lastResult_cons, lastLeft_cons, of, hran]
        exact ih
  | @last i interceptors st on =>
      rcases hran : i.postCall c response st with ⟨failure | ⟨⟨⟩⟩, st'⟩
      · rw [runPostCalls, hran, of, hran]
        rfl
      · rw [hran] at on
        cases on

theorem runHandler_eq {sc : Binding.Scope σ} {b : BoundCall σ} (hmodel : b.model = sc.model)
    (d : Disk) (st : CallState σ) :
    let given := answered sc.snapshot
      (b, sc.model.handler ⟨b.args, b.form, b.streaming⟩ d { toCallState := st })
    runHandler sc b d st = runPostCalls sc.snapshot.mappers (sc.model.context sc.request) given.1
      sc.snapshot.interceptors given.2 := by
  obtain ⟨model, args, form, streaming, scratch⟩ := b
  obtain rfl : model = sc.model := hmodel
  rw [runHandler, BoundCall.invoke]
  rcases sc.model.handler ⟨args, form, streaming⟩ d { toCallState := st } with
    ⟨failure | reply, st'⟩
  · rfl
  -- the handler has taken the arguments, and no reply is answered by them
  · cases reply <;> rfl

/-! ### What ran, and the response that comes of it -/

namespace Trace

variable {t : Trace σ} {sc : Binding.Scope σ} {st : CallState σ} {d : Disk}

theorem failures_of_flow {κ : Type} {act : κ → CallState σ → Except Failure Flow × CallState σ}
    {ks : List κ} {runs : List (CallbackRun κ (CallState σ) (Except Failure Flow))}
    (h : InOrder act proceeds ks st runs) :
    runs.filterMap (fun run => failure? run.result) =
      (failure? (lastResult (.ok .proceed) runs)).toList :=
  h.filterMap_result rfl fun e he => by rw [proceeds_iff.1 he]; rfl

theorem halts_of_flow {κ : Type} {act : κ → CallState σ → Except Failure Flow × CallState σ}
    {ks : List κ} {runs : List (CallbackRun κ (CallState σ) (Except Failure Flow))}
    (h : InOrder act proceeds ks st runs) :
    (runs.any fun run => halts run.result) = halts (lastResult (.ok .proceed) runs) :=
  h.any_result rfl fun e he => by rw [proceeds_iff.1 he]; rfl

theorem failures_of_postCalls {κ : Type} {act : κ → CallState σ → Except Failure Unit × CallState σ}
    {ks : List κ} {runs : List (CallbackRun κ (CallState σ) (Except Failure Unit))}
    (h : InOrder act Except.isOk ks st runs) :
    runs.filterMap (fun run => failure? run.result) =
      (failure? (lastResult (.ok ()) runs)).toList :=
  h.filterMap_result rfl fun e he => by
    cases e with
    | error failure => cases he
    | ok result => rfl

theorem Ran.filtered_eq (h : t.Ran sc st d) :
    t.filtered = proceeds (lastResult (.ok .proceed) t.requestFilters) :=
  h.requestFilters.all_goesOn rfl

/-- Behind a stage that stopped the call nothing ran. -/
theorem Ran.of_not_prepared (h : t.Ran sc st d) (hstop : t.prepared = false) :
    t.binding = none ∧ t.handler = none ∧ t.postCalls = [] := by
  have hbinding := h.binding
  have hhandler := h.handler
  have hpost := h.postCalls
  rw [if_neg (Bool.eq_false_iff.1 hstop)] at hbinding
  rw [hbinding] at hhandler
  rw [hhandler] at hpost
  exact ⟨hbinding, hhandler, hpost⟩

/-- The response to a call that a filter or a first half stopped. -/
def stopped (s : Snapshot σ) (st : CallState σ) : Except Failure Flow → Response
  | .error failure => s.mappers.respond failure
  | .ok _ => st.sink.toResponse

section Hands

variable {s : Snapshot σ}

theorem hands_failed {failure : Failure} (hlast : t.failures.getLast? = some failure)
    (hhalted : t.halted = false) : t.Hands s st (s.mappers.respond failure) := by
  refine ⟨fun last heq => ?_, fun h => ?_, fun h => ?_⟩
  · rw [hlast] at heq
    rw [Option.some.inj heq]
  · rw [hhalted] at h
    cases h
  · rw [h] at hlast
    cases hlast

theorem hands_halted (hfailures : t.failures = []) (hhalted : t.halted = true) :
    t.Hands s st (t.beforeBinding st).sink.toResponse := by
  refine ⟨fun last heq => ?_, fun _ => rfl, fun _ h => ?_⟩
  · rw [hfailures] at heq
    cases heq
  · rw [hhalted] at h
    cases h

theorem hands_replied {b : BoundCall σ} {reply : Reply} {st' : HandlerState σ}
    (hfailures : t.failures = []) (hhalted : t.halted = false)
    (hhandler : t.handler = some (b, .ok reply, st')) :
    t.Hands s st (answer s b reply st').1 := by
  refine ⟨fun last heq => ?_, fun h => ?_, fun _ _ => ⟨b, reply, st', hhandler, rfl⟩⟩
  · rw [hfailures] at heq
    cases heq
  · rw [hhalted] at h
    cases h

end Hands

theorem hands_runHandler {b : BoundCall σ} {d' : Disk} {call : CallState σ}
    {given : Except Failure Reply × HandlerState σ} (hmodel : b.model = sc.model)
    (hgiven : sc.model.handler ⟨b.args, b.form, b.streaming⟩ d' { toCallState := call } = given)
    (hfailures : t.failures = (t.handler.bind fun ran => failure? ran.2.1).toList ++
      t.postCalls.filterMap (fun run => failure? run.result))
    (hhalted : t.halted = false)
    (hhandler : t.handler = some (b, given))
    (hpost : InOrder
      (fun i st => i.postCall (sc.model.context sc.request) (answered sc.snapshot (b, given)).1 st)
      Except.isOk sc.snapshot.interceptors (answered sc.snapshot (b, given)).2 t.postCalls) :
    t.Hands sc.snapshot st (runHandler sc b d' call).1 ∧
      (runHandler sc b d' call).2 = t.beforeResponseFilters sc.snapshot st := by
  rw [runHandler_eq hmodel, hgiven, runPostCalls_eq sc.snapshot.mappers hpost,
    beforeResponseFilters, beforePostCalls, hhandler]
  refine ⟨?_, rfl⟩
  rw [failures_of_postCalls hpost, hhandler] at hfailures
  -- a second half that fails is what failed last, whatever the handler gave
  cases hlast : lastResult (.ok ()) t.postCalls with
  | error failure =>
      refine hands_failed ?_ hhalted
      rw [hfailures, hlast]
      exact List.getLast?_concat
  | ok result =>
      rcases given with ⟨failure | reply, st'⟩
      · refine hands_failed ?_ hhalted
        rw [hfailures, hlast]
        rfl
      · refine hands_replied ?_ hhalted hhandler
        rw [hfailures, hlast]
        rfl

/-- What runs from binding on settles the response. -/
theorem Ran.hands_bindAndRun (h : t.Ran sc st d) (hprepared : t.prepared = true)
    (hfailures : t.failures = (t.binding.bind fun bound =>
        failure? (bound.1.mapError .binding)).toList ++
      (t.handler.bind fun ran => failure? ran.2.1).toList ++
      t.postCalls.filterMap (fun run => failure? run.result))
    (hhalted : t.halted = false) :
    t.Hands sc.snapshot st (bindAndRun sc (t.beforeBinding st) d).response ∧
      (bindAndRun sc (t.beforeBinding st) d).state = t.beforeResponseFilters sc.snapshot st := by
  have hbinding := h.binding
  have hhandler := h.handler
  have hpost := h.postCalls
  rw [if_pos hprepared] at hbinding
  rw [hbinding] at hhandler
  rcases hbind : Binding.bind sc (t.beforeBinding st) d with ⟨e | b, st', d'⟩
  · rw [hbind] at hbinding hhandler
    rw [hhandler] at hpost
    rw [hbinding, hhandler, hpost] at hfailures
    rw [bindAndRun, hbind, beforeResponseFilters, hpost, beforePostCalls, hhandler, hbinding]
    refine ⟨hands_failed ?_ hhalted, rfl⟩
    rw [hfailures]
    rfl
  · rw [hbind] at hbinding hhandler
    rw [hhandler] at hpost
    rw [hbinding] at hfailures
    rw [bindAndRun, hbind]
    exact hands_runHandler (Binding.model_of_bind_eq_ok hbind) rfl hfailures hhalted hhandler hpost

/-- A filter or a first half that stops the call settles the response. -/
theorem Ran.hands_of_not_prepared (h : t.Ran sc st d) (hprepared : t.prepared = false)
    {e : Except Failure Flow} (he : proceeds e = false) (hhalted : t.halted = halts e)
    (hfailures : t.requestFilters.filterMap (fun run => failure? run.result) ++
      t.preCalls.filterMap (fun run => failure? run.result) = (failure? e).toList) :
    t.Hands sc.snapshot st (stopped sc.snapshot (t.beforeBinding st) e) ∧
      t.beforeBinding st = t.beforeResponseFilters sc.snapshot st := by
  obtain ⟨hbinding, hhandler, hpost⟩ := h.of_not_prepared hprepared
  have hall : t.failures = (failure? e).toList := by
    rw [failures, hfailures, hbinding, hhandler, hpost]
    simp
  refine ⟨?_, by rw [beforeResponseFilters, hpost, beforePostCalls, hhandler, hbinding]; rfl⟩
  rcases e with failure | ⟨⟨⟩ | ⟨⟩⟩
  · exact hands_failed (by rw [hall]; rfl) hhalted
  · cases he
  · exact hands_halted hall hhalted

theorem Ran.hands_runMethod (h : t.Ran sc st d) (hfiltered : t.filtered = true) :
    t.Hands sc.snapshot st (runMethod sc (lastLeft st t.requestFilters) d).response ∧
      (runMethod sc (lastLeft st t.requestFilters) d).state =
        t.beforeResponseFilters sc.snapshot st := by
  have hpre := h.preCalls
  rw [if_pos hfiltered] at hpre
  have hproceeded : lastResult (.ok .proceed) t.requestFilters = .ok .proceed :=
    proceeds_iff.1 (h.filtered_eq.symm.trans hfiltered)
  have hprepared : t.prepared = proceeds (lastResult (.ok .proceed) t.preCalls) := by
    rw [prepared, hfiltered, Bool.true_and]
    exact hpre.all_goesOn rfl
  have hhalted : t.halted = halts (lastResult (.ok .proceed) t.preCalls) := by
    rw [halted, halts_of_flow h.requestFilters, hproceeded, halts_of_flow hpre]
    rfl
  have hfailures : t.requestFilters.filterMap (fun run => failure? run.result) ++
      t.preCalls.filterMap (fun run => failure? run.result) =
        (failure? (lastResult (.ok .proceed) t.preCalls)).toList := by
    rw [failures_of_flow h.requestFilters, hproceeded, failures_of_flow hpre]
    rfl
  rw [runMethod, runPreCalls_eq hpre]
  cases hlast : lastResult (.ok .proceed) t.preCalls with
  | error failure =>
      rw [hlast] at hprepared hhalted hfailures
      exact h.hands_of_not_prepared hprepared rfl hhalted hfailures
  | ok flow =>
      rw [hlast] at hprepared hhalted hfailures
      cases flow with
      | proceed =>
          refine h.hands_bindAndRun hprepared ?_ hhalted
          rw [failures, hfailures]
          simp [failure?]
      | halt => exact h.hands_of_not_prepared hprepared rfl hhalted hfailures

theorem Ran.hands_of_not_filtered (h : t.Ran sc st d) {e : Except Failure Flow}
    (hlast : lastResult (.ok .proceed) t.requestFilters = e) (he : proceeds e = false) :
    t.Hands sc.snapshot st (stopped sc.snapshot (lastLeft st t.requestFilters) e) ∧
      lastLeft st t.requestFilters = t.beforeResponseFilters sc.snapshot st := by
  have hfiltered : t.filtered = false := by
    rw [h.filtered_eq, hlast, he]
  have hpre := h.preCalls
  rw [if_neg (Bool.eq_false_iff.1 hfiltered)] at hpre
  have hbefore : t.beforeBinding st = lastLeft st t.requestFilters := by
    rw [beforeBinding, hpre]
    rfl
  rw [← hbefore]
  refine h.hands_of_not_prepared ?_ he ?_ ?_
  · rw [prepared, hfiltered, Bool.false_and]
  · rw [halted, halts_of_flow h.requestFilters, hlast, hpre]
    exact Bool.or_false _
  · rw [failures_of_flow h.requestFilters, hlast, hpre]
    exact List.append_nil _

/-- The response and the state before the response filters are those that the trace tells. -/
theorem Ran.hands_runRequest (h : t.Ran sc st d) :
    t.Hands sc.snapshot st (runRequest sc st d).response ∧
      (runRequest sc st d).state = t.beforeResponseFilters sc.snapshot st := by
  rw [runRequest, requestFiltersFor_eq, runRequestFilters_eq h.requestFilters]
  cases hlast : lastResult (.ok .proceed) t.requestFilters with
  | error failure => exact h.hands_of_not_filtered hlast rfl
  | ok flow =>
      cases flow with
      | proceed =>
          refine h.hands_runMethod ?_
          rw [h.filtered_eq, hlast]
          rfl
      | halt => exact h.hands_of_not_filtered hlast rfl

/-- The trace of what is run, each stage up to the first callback that does not let the call go on,
with the responses that dispatch makes. -/
def of (sc : Binding.Scope σ) (st : CallState σ) (d : Disk) : Trace σ :=
  let requestFilters := upTo (fun filter st => filter sc.request st) proceeds
    (sc.snapshot.requestFiltersFor sc.model.service) st
  let filtered := requestFilters.all fun run => proceeds run.result
  let preCalls := if filtered
    then upTo (fun i st => i.preCall (sc.model.context sc.request) st) proceeds
      sc.snapshot.interceptors (lastLeft st requestFilters)
    else []
  let prepared := filtered && preCalls.all fun run => proceeds run.result
  let binding := if prepared
    then some (Binding.bind sc (lastLeft (lastLeft st requestFilters) preCalls) d) else none
  let handler := match binding with
    | some (.ok b, st, d) =>
      some (b, sc.model.handler ⟨b.args, b.form, b.streaming⟩ d { toCallState := st })
    | _ => none
  let postCalls := match handler with
    | some ran =>
      upTo (fun i st => i.postCall (sc.model.context sc.request) (answered sc.snapshot ran).1 st)
        Except.isOk sc.snapshot.interceptors (answered sc.snapshot ran).2
    | none => []
  let outcome := runRequest sc st d
  { requestFilters, preCalls, binding, handler, postCalls, handed := outcome.response,
    responseFilters := upTo (fun filter given => filter sc.request given.1 given.2) Except.isOk
      (sc.snapshot.responseFiltersFor sc.model.service) (outcome.response, outcome.state),
    response := (complete sc outcome).1 }

theorem ran_of (sc : Binding.Scope σ) (st : CallState σ) (d : Disk) : (of sc st d).Ran sc st d where
  requestFilters := by
    rw [← requestFiltersFor_eq]
    exact inOrder_upTo _ _ _ _
  preCalls := by
    split
    · next h =>
      have hpre : (of sc st d).preCalls = _ := if_pos h
      rw [hpre]
      exact inOrder_upTo _ _ _ _
    · next h => exact if_neg h
  binding := rfl
  handler := rfl
  postCalls := by
    have hpost : (of sc st d).postCalls = match (of sc st d).handler with
        | some ran => upTo (fun i st => i.postCall (sc.model.context sc.request)
            (answered sc.snapshot ran).1 st)
            Except.isOk sc.snapshot.interceptors (answered sc.snapshot ran).2
        | none => [] := rfl
    rw [hpost]
    cases (of sc st d).handler with
    | none => rfl
    | some ran => exact inOrder_upTo _ _ _ _

theorem follows_of (sc : Binding.Scope σ) (st : CallState σ) (d : Disk) :
    (of sc st d).Follows sc st d ∧
      (complete sc (runRequest sc st d)).2.1 = ((of sc st d).final sc.snapshot st).2 := by
  obtain ⟨hhands, hstate⟩ := (ran_of sc st d).hands_runRequest
  have hruns : InOrder (fun filter given => filter sc.request given.1 given.2) Except.isOk
      (sc.snapshot.responseFiltersFor sc.model.service)
      ((runRequest sc st d).response, (runRequest sc st d).state)
      (of sc st d).responseFilters := inOrder_upTo _ _ _ _
  have hfinal : (of sc st d).final sc.snapshot st =
      lastLeft ((runRequest sc st d).response, (runRequest sc st d).state)
        (of sc st d).responseFilters := by
    rw [final, ← hstate]
    rfl
  have hcomplete := complete_eq hruns
  rw [← hfinal] at hcomplete
  rw [responseFiltersFor_eq, hstate] at hruns
  refine ⟨⟨ran_of sc st d, hhands, hruns, congrArg Prod.fst hcomplete⟩, ?_⟩
  rw [hcomplete]

section Unique

variable {t' : Trace σ}

theorem Ran.unique (h : t.Ran sc st d) (h' : t'.Ran sc st d) :
    t.requestFilters = t'.requestFilters ∧ t.preCalls = t'.preCalls ∧ t.binding = t'.binding ∧
      t.handler = t'.handler ∧ t.postCalls = t'.postCalls := by
  have hfilters := h.requestFilters.unique h'.requestFilters
  have hfiltered : t.filtered = t'.filtered := by rw [filtered, filtered, hfilters]
  have hpre : t.preCalls = t'.preCalls := by
    have hruns := h.preCalls
    have hruns' := h'.preCalls
    rw [← hfiltered, ← hfilters] at hruns'
    split at hruns
    · next hon =>
      rw [if_pos hon] at hruns'
      exact hruns.unique hruns'
    · next hoff =>
      rw [if_neg hoff] at hruns'
      rw [hruns, hruns']
  have hprepared : t.prepared = t'.prepared := by rw [prepared, prepared, hfiltered, hpre]
  have hbinding : t.binding = t'.binding := by
    rw [h.binding, h'.binding, hprepared, beforeBinding, beforeBinding, hfilters, hpre]
  have hhandler : t.handler = t'.handler := by rw [h.handler, h'.handler, hbinding]
  refine ⟨hfilters, hpre, hbinding, hhandler, ?_⟩
  have hruns := h.postCalls
  have hruns' := h'.postCalls
  rw [← hhandler] at hruns'
  split at hruns
  · next ran heq =>
    rw [heq] at hruns'
    exact hruns.unique hruns'
  · next heq =>
    rw [heq] at hruns'
    rw [hruns, hruns']

theorem Hands.unique {s : Snapshot σ} {response response' : Response}
    (h : t.Hands s st response) (h' : t'.Hands s st response')
    (hfailures : t.failures = t'.failures)
    (hhalted : t.halted = t'.halted) (hbefore : t.beforeBinding st = t'.beforeBinding st)
    (hhandler : t.handler = t'.handler) : response = response' := by
  cases hlast : t.failures.getLast? with
  | some failure => rw [h.failed failure hlast, h'.failed failure (hfailures ▸ hlast)]
  | none =>
      rw [List.getLast?_eq_none_iff] at hlast
      cases hstop : t.halted with
      | true => rw [h.halted hstop, h'.halted (hhalted ▸ hstop), hbefore]
      | false =>
          obtain ⟨b, reply, st', hran, heq⟩ := h.replied hlast hstop
          obtain ⟨b', reply', st'', hran', heq'⟩ := h'.replied (hfailures ▸ hlast) (hhalted ▸ hstop)
          rw [hhandler, hran'] at hran
          cases hran
          rw [heq, heq']

/-- A call has one trace. -/
theorem Follows.unique (h : t.Follows sc st d) (h' : t'.Follows sc st d) : t = t' := by
  obtain ⟨rf, pre, binding, handler, post, handed, runs, response⟩ := t
  obtain ⟨rf', pre', binding', handler', post', handed', runs', response'⟩ := t'
  obtain ⟨hrf, hpre, hbinding, hhandler, hpost⟩ := h.toRan.unique h'.toRan
  obtain rfl : rf = rf' := hrf
  obtain rfl : pre = pre' := hpre
  obtain rfl : binding = binding' := hbinding
  obtain rfl : handler = handler' := hhandler
  obtain rfl : post = post' := hpost
  -- what ran is the same, so what is read from it for the response is so by definition
  obtain rfl : handed = handed' := h.handed.unique h'.handed rfl rfl rfl rfl
  obtain rfl : runs = runs' := h.responseFilters.unique h'.responseFilters
  obtain rfl : response = response' := h.response.trans h'.response.symm
  rfl

end Unique

end Trace

end Dispatch

end ServiceDispatch
