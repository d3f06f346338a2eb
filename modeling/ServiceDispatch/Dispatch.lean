import ServiceDispatch.Binding.Call

/-!
# Dispatch

`Dispatch.run` answers a request for one method. Request filters run first, the global
ones and then those that the service declares; then the first halves of the
interceptors, binding, the handler, and the second halves of the interceptors; response
filters come last. A filter or an interceptor may halt the call, which answers it with
what the sink holds. A failure anywhere is answered by the most specific mapper for its
kind. The uploads of the call are removed when the response is there.
-/

namespace ServiceDispatch

namespace Dispatch

variable {σ : Type}

/-- Runs request filters in order, up to the first that halts or fails. -/
def runRequestFilters (r : Request) : List (RequestFilter σ) → CallState σ →
    Except Failure Flow × CallState σ
  | [], st => (.ok .proceed, st)
  | filter :: filters, st => match filter r st with
    | (.ok .proceed, st) => runRequestFilters r filters st
    | stopped => stopped

/-- Runs response filters in order, up to the first that fails. -/
def runResponseFilters (r : Request) : List (ResponseFilter σ) → Response → CallState σ →
    Except Failure Unit × Response × CallState σ
  | [], response, st => (.ok (), response, st)
  | filter :: filters, response, st => match filter r response st with
    | (.ok (), response, st) => runResponseFilters r filters response st
    | stopped => stopped

/-- Runs the first halves of interceptors in order, up to one that halts or fails. -/
def runPreCalls (c : CallContext σ) : List (Interceptor σ) → CallState σ →
    Except Failure Flow × CallState σ
  | [], st => (.ok .proceed, st)
  | interceptor :: interceptors, st => match interceptor.preCall c st with
    | (.ok .proceed, st) => runPreCalls c interceptors st
    | stopped => stopped

/-- Runs the second halves of interceptors in order, up to one that fails; the answer
to the failure takes the place of the response. -/
def runPostCalls (mappers : MapperTable) (c : CallContext σ) (response : Response) :
    List (Interceptor σ) → CallState σ → Response × CallState σ
  | [], st => (response, st)
  | interceptor :: interceptors, st => match interceptor.postCall c response st with
    | (.ok (), st) => runPostCalls mappers c response interceptors st
    | (.error failure, st) => (mappers.respond failure, st)

/-- Sets a content type unless there is one or the text is no header value. -/
def withDefaultType (contentType : String) (r : Response) : Response :=
  let value := Utf8.encode contentType
  if (r.headers.first? Response.contentTypeName).isNone && Header.isValue value then
    r.withHeader Response.contentTypeName value
  else r

/-- The answer that a chunk stream makes of what the sink holds. -/
def streamed (sink : Sink) (stream : ChunkStream) : Response :=
  let response := sink.toResponse.withBody stream.body
  match (stream.contentType.map Utf8.encode).filter Header.isValue with
  | some value => response.withHeader Response.contentTypeName value
  | none => response

/-- The answer of a handler that replies nothing: what was streamed if the stream was
used, else what the sink holds, which is no content if that is nothing. -/
def answerEmpty (streaming : Bool) (st : HandlerState σ) : Response × HandlerState σ :=
  if streaming && st.stream.isUsed then
    (streamed st.sink st.stream, { st with stream := st.stream.takeBody.2 })
  else if st.sink.body.isNone && st.sink.status == 200 then
    ({ st.sink.toResponse with status := 204 }, st)
  else (st.sink.toResponse, st)

/-- The answer of a handler that replies a value tree. -/
def answerValue (converters : ConverterTable) (produces : Option String) (j : Json)
    (sink : Sink) : Response :=
  let mediaType := produces.getD MediaType.json
  match (converters.select (some mediaType)).encode j with
  | .ok body => (withDefaultType mediaType sink.toResponse).withBody body
  | .error e => Response.jsonError 500 e.message

/-- The answer that a reply makes of what was written during the call. -/
def answer (s : Snapshot σ) (b : BoundCall σ) (reply : Reply) (st : HandlerState σ) :
    Response × HandlerState σ :=
  match reply with
  | .empty => answerEmpty b.streaming st
  | .text t =>
    ((withDefaultType "text/plain; charset=utf-8" st.sink.toResponse).withBody (Utf8.encode t), st)
  | .bytes body =>
    ((withDefaultType MediaType.octetStream st.sink.toResponse).withBody body, st)
  | .value j => (answerValue s.converters b.model.produces j st.sink, st)
  | .response r =>
    let sink := st.sink.apply r
    (sink.toResponse, { st with sink })

/-- Runs the handler of a bound call and the second halves of the interceptors. -/
def runHandler (sc : Binding.Scope σ) (b : BoundCall σ) (d : Disk) (st : CallState σ) :
    Response × CallState σ :=
  let (result, st, b) := b.invoke d { toCallState := st }
  let (response, st) := match result with
    | .ok reply => answer sc.snapshot b reply st
    | .error failure => (sc.snapshot.mappers.respond failure, st)
  runPostCalls sc.snapshot.mappers (sc.model.context sc.request) response
    sc.snapshot.interceptors st.toCallState

/-- What has come of a call: its answer, its uploads, and what it changed. -/
structure Outcome (σ : Type) where
  response : Response
  /-- The uploads that are still to be removed. -/
  scratch : Scratch := {}
  state : CallState σ
  disk : Disk

/-- Binds the arguments and runs the handler. -/
def bindAndRun (sc : Binding.Scope σ) (st : CallState σ) (d : Disk) : Outcome σ :=
  match Binding.bind sc st d with
  | (.error e, state, disk) =>
    { response := sc.snapshot.mappers.respond (.binding e), state, disk }
  | (.ok b, state, disk) =>
    let (response, state) := runHandler sc b disk state
    { response, scratch := b.scratch, state, disk }

/-- Runs interceptors, binding and the handler. -/
def runMethod (sc : Binding.Scope σ) (st : CallState σ) (d : Disk) : Outcome σ :=
  match runPreCalls (sc.model.context sc.request) sc.snapshot.interceptors st with
  | (.ok .proceed, st) => bindAndRun sc st d
  | (.ok .halt, state) => { response := state.sink.toResponse, state, disk := d }
  | (.error failure, state) =>
    { response := sc.snapshot.mappers.respond failure, state, disk := d }

/-- Runs everything but the response filters. -/
def runRequest (sc : Binding.Scope σ) (st : CallState σ) (d : Disk) : Outcome σ :=
  let filters := sc.snapshot.requestFiltersFor sc.model.service
  match runRequestFilters sc.request filters st with
  | (.ok .proceed, st) => runMethod sc st d
  | (.ok .halt, state) => { response := state.sink.toResponse, state, disk := d }
  | (.error failure, state) =>
    { response := sc.snapshot.mappers.respond failure, state, disk := d }

/-- Runs the response filters on an outcome, and removes the uploads. -/
def complete (sc : Binding.Scope σ) (o : Outcome σ) : Response × CallState σ × Disk :=
  let filters := sc.snapshot.responseFiltersFor sc.model.service
  let (result, response, st) := runResponseFilters sc.request filters o.response o.state
  let response := match result with
    | .ok () => response
    | .error failure => sc.snapshot.mappers.respond failure
  (response, st, o.scratch.drop o.disk)

/-- Answers a request, writing to a sink that may hold something already. -/
def runWith (registry : Registry σ) (model : ResourceModel σ) (request : Request)
    (captures : Table String) (sink : Sink) (w : World σ) : Response × Sink × World σ :=
  let sc : Binding.Scope σ :=
    { config := registry.config, snapshot := registry.snapshot, model, request, captures }
  let (response, st, disk) := complete sc (runRequest sc ⟨w.app, w.fields, sink⟩ w.disk)
  (response, st.sink, ⟨st.app, st.fields, disk⟩)

/-- Answers a request. -/
def run (registry : Registry σ) (model : ResourceModel σ) (request : Request)
    (captures : Table String) (w : World σ) : Response × World σ :=
  let (response, _, w) := runWith registry model request captures {} w
  (response, w)

end Dispatch

end ServiceDispatch
