import ServiceDispatch.Binding.Value

/-!
# Binding a call

`Binding.bind` turns a request for a method into a `BoundCall`: it fills the fields of
the service, binds every parameter in order, and lets providers replace the arguments if
the method says so. Everything is looked up in one snapshot.

The form is read when the first parameter needs it, and once. Its uploads belong to the
call; if binding fails they are removed at once.
-/

namespace ServiceDispatch

/-- A call that is ready to run. -/
structure BoundCall (σ : Type) where
  model : ResourceModel σ
  args : Arguments
  /-- The form of the request, if a parameter needed it. -/
  form : Option FormParams := none
  /-- Whether a parameter asked for the chunk stream. -/
  streaming : Bool := false
  /-- The uploads of the call. -/
  scratch : Scratch := {}

namespace BoundCall

variable {σ : Type}

/-- Runs the handler. The arguments go to it, so that a second run finds none. -/
def invoke (b : BoundCall σ) (d : Disk) (st : HandlerState σ) :
    Except Failure Reply × HandlerState σ × BoundCall σ :=
  let (result, st) := b.model.handler ⟨b.args, b.form, b.streaming⟩ d st
  (result, st, { b with args := {} })

/-- How a call is shown. -/
def describe (b : BoundCall σ) : String :=
  Text.record "CallDescriptor"
    [("method", Text.quoted b.model.name), ("args", b.args.describe),
     ("streaming", toString b.streaming), ("temp_files", toString b.scratch.files.length)]

end BoundCall

namespace Binding

variable {σ : Type}

/-- What is given when a request is bound. -/
structure Scope (σ : Type) where
  config : DispatchConfig
  snapshot : Snapshot σ
  model : ResourceModel σ
  request : Request
  /-- The parts of the path that the router matched, by name. -/
  captures : Table String

/-- What changes while a request is bound. -/
structure Progress (σ : Type) where
  call : CallState σ
  disk : Disk
  scratch : Scratch := {}
  form : Option FormData := none
  streaming : Bool := false

/-- What a provider made, if it is of the expected type or absent. -/
def checkProduced (key : ContextKey) (expected : ValueType) (arg : Arg) :
    Except BindingCause Arg :=
  if arg.isNone || arg.holds expected then .ok arg
  else .error (.context key.text s!"provider produced {arg.typeName}, expected {expected.name}")

/-- Runs the provider for a key; without one the argument is absent. -/
def provide (sc : Scope σ) (key : ContextKey) (expected : ValueType) (st : CallState σ) :
    Except BindingCause Arg × CallState σ :=
  match sc.snapshot.provider? key with
  | none => (.ok none, st)
  | some provider => match provider.create (sc.model.context sc.request) st with
    | (.error reason, st) => (.error (.context key.text reason), st)
    | (.ok arg, st) => (checkProduced key expected arg, st)

/-- Fills fields of the service in order, up to the first failure. -/
def injectFields (sc : Scope σ) : List Field → CallState σ →
    Except BindingCause Unit × CallState σ
  | [], st => (.ok (), st)
  | field :: fields, st => match provide sc field.contextKey field.declared st with
    | (.error e, st) => (.error e, st)
    | (.ok arg, st) =>
      injectFields sc fields
        { st with fields := st.fields.set sc.model.service.id field.name arg }

/-- The form of the request, which is read if that has not been done. -/
def readForm (sc : Scope σ) (st : Progress σ) : Except BindingCause FormData × Progress σ :=
  match st.form with
  | some form => (.ok form, st)
  | none =>
    match FormData.extract sc.request sc.config.formLimits st.scratch st.disk with
    | (.error e, scratch, disk) => (.error (.form e), { st with scratch, disk })
    | (.ok form, scratch, disk) => (.ok form, { st with scratch, disk, form := some form })

/-- Something made of the form. -/
def withForm {α : Type} (sc : Scope σ) (st : Progress σ)
    (use : FormData → Disk → Except BindingCause α) : Except BindingCause α × Progress σ :=
  match readForm sc st with
  | (.error e, st) => (.error e, st)
  | (.ok form, st) => (use form st.disk, st)

/-- Binds an object of the library. -/
def bindContext (sc : Scope σ) (target : ValueType) (st : Progress σ) :
    Except BindingCause Arg × Progress σ :=
  match target with
  | .request => (.ok (some (.request sc.request)), st)
  | .sink => (.ok (some (.sink none)), st)
  | .chunkStream => (.ok (some (.chunkStream none)), { st with streaming := true })
  | .multipart => match MultipartForm.ofRequest sc.request sc.config.maxFormParts with
    | .ok form => (.ok (some (.multipart form)), st)
    | .error e => (.error (.form e), st)
  | .formParams =>
    if sc.request.isForm then
      withForm sc st fun form _ => .ok (some (.formParams form.params))
    else (.ok (some (.formParams sc.request.queryParams)), st)
  | other => (.error (.unresolvedContext other.name), st)

/-- Binds a keyed parameter. -/
def bindKeyed (sc : Scope σ) (p : Parameter) (key : String) (c : Converter) (st : Progress σ) :
    KeyedSource → Except BindingCause Arg × Progress σ
  | .path => (p.bindPath c (Table.get? key sc.captures), st)
  | .query => (p.convertFound c (FormParams.texts key sc.request.queryParams), st)
  | .header => (p.bindHeader c (sc.request.header? key), st)
  | .cookie =>
    (p.bindCookie c key sc.config.cookieDefaultWithoutHeader sc.request.cookieHeader?, st)
  | .form => withForm sc st (p.bindForm c sc.snapshot.converters false key)
  | .formData => withForm sc st (p.bindForm c sc.snapshot.converters true key)

/-- Binds one parameter. -/
def bindParameter (sc : Scope σ) (p : Parameter) (st : Progress σ) :
    Except BindingCause Arg × Progress σ :=
  match p.binding with
  | .keyed source key c => bindKeyed sc p key c st source
  | .body c => (p.bindBody c sc.snapshot.converters sc.config.defaultMediaType sc.request, st)
  | .context target => bindContext sc target st
  | .customContext target =>
    let (result, call) := provide sc p.contextKey target st.call
    (result, { st with call })

/-- Binds parameters in order, up to the first failure. -/
def bindParameters (sc : Scope σ) : List Parameter → Progress σ →
    Except BindingCause (List Arg) × Progress σ
  | [], st => (.ok [], st)
  | p :: ps, st => match bindParameter sc p st with
    | (.error e, st) => (.error e, st)
    | (.ok arg, st) => match bindParameters sc ps st with
      | (.error e, st) => (.error e, st)
      | (.ok args, st) => (.ok (arg :: args), st)

/-- Makes arguments by providers, under one qualifier. -/
def provideAll (sc : Scope σ) (qualifier : Option String) : List Parameter → CallState σ →
    Except BindingCause (List Arg) × CallState σ
  | [], st => (.ok [], st)
  | p :: ps, st => match provide sc (.new p.target qualifier) p.target st with
    | (.error e, st) => (.error e, st)
    | (.ok arg, st) => match provideAll sc qualifier ps st with
      | (.error e, st) => (.error e, st)
      | (.ok args, st) => (.ok (arg :: args), st)

/-- The arguments of a method: those bound, or in their place those that providers make
if the method says so. -/
def bindArguments (sc : Scope σ) (st : Progress σ) :
    Except BindingCause (List Arg) × Progress σ :=
  match bindParameters sc sc.model.params st with
  | (.error e, st) => (.error e, st)
  | (.ok args, st) => match sc.model.methodContext with
    | none => (.ok args, st)
    | some directive =>
      let (result, call) := provideAll sc directive.qualifier sc.model.params st.call
      (result, { st with call })

/-- Fills the fields of the service and makes the arguments. -/
def prepare (sc : Scope σ) (call : CallState σ) (d : Disk) :
    Except BindingCause (List Arg) × Progress σ :=
  match injectFields sc sc.model.fields call with
  | (.error e, call) => (.error e, { call, disk := d })
  | (.ok (), call) => bindArguments sc { call, disk := d }

/-- Binds a request to a method. -/
def bind (sc : Scope σ) (call : CallState σ) (d : Disk) :
    Except BindingError (BoundCall σ) × CallState σ × Disk :=
  match prepare sc call d with
  | (.error cause, st) =>
    (.error ⟨sc.model.name, sc.request.line, cause⟩, st.call, st.scratch.drop st.disk)
  | (.ok args, st) =>
    (.ok { model := sc.model, args := .ofList args, form := st.form.map FormData.params,
           streaming := st.streaming, scratch := st.scratch }, st.call, st.disk)

theorem model_of_bind_eq_ok {sc : Scope σ} {call call' : CallState σ} {d d' : Disk}
    {b : BoundCall σ} (h : bind sc call d = (.ok b, call', d')) : b.model = sc.model := by
  rw [bind] at h
  split at h
  · cases h
  · cases h
    rfl

end Binding

end ServiceDispatch
