import ServiceDispatch.Proofs.Binding.Relocation

/-!
# The buffers of a body

The transport hands a body over in buffers, cut as it likes. `inBuffers` cuts the same body in
another way. Whatever binding takes from the body it takes from the buffers joined, but for its
size, which is summed over the buffers and comes to the same. Only a parameter that is the request
itself would show the buffers, and a provider of the application could look at them; without either,
each stage of binding is the same however the body was cut, and so is the call.
-/

namespace ServiceDispatch

/-! ### Requests -/

/-- The request with its body in other buffers. -/
def Request.inBuffers (bs : List Bytes) (r : Request) : Request := { r with buffers := bs }

variable {bs : List Bytes}

namespace Request

variable {r : Request}

theorem body_inBuffers (h : bs.flatten = r.body) : (r.inBuffers bs).body = r.body := h

theorem bodyLength_inBuffers (h : bs.flatten = r.body) :
    (r.inBuffers bs).bodyLength = r.bodyLength := by
  rw [bodyLength_eq, bodyLength_eq, body_inBuffers h]

@[simp] theorem contentType?_inBuffers : (r.inBuffers bs).contentType? = r.contentType? := rfl

@[simp] theorem isForm_inBuffers : (r.inBuffers bs).isForm = r.isForm := rfl

@[simp] theorem queryParams_inBuffers : (r.inBuffers bs).queryParams = r.queryParams := rfl

@[simp] theorem line_inBuffers : (r.inBuffers bs).line = r.line := rfl

end Request

theorem FormData.extract_inBuffers {r : Request} (h : bs.flatten = r.body) (limits : FormLimits) :
    extract (r.inBuffers bs) limits = extract r limits := by
  funext s d
  rw [extract, extract, Request.contentType?_inBuffers, Request.bodyLength_inBuffers h,
    Request.body_inBuffers h]

theorem MultipartForm.ofRequest_inBuffers {r : Request} (h : bs.flatten = r.body) (limit : Nat) :
    ofRequest (r.inBuffers bs) limit = ofRequest r limit := by
  rw [ofRequest, ofRequest, Request.contentType?_inBuffers, Request.body_inBuffers h]

theorem Parameter.bindBody_inBuffers {r : Request} (h : bs.flatten = r.body) (p : Parameter)
    (c : Converter) (t : ConverterTable) (otherwise : String) :
    p.bindBody c t otherwise (r.inBuffers bs) = p.bindBody c t otherwise r := by
  rw [bindBody, bindBody, Request.contentType?_inBuffers, Request.body_inBuffers h]

/-! ### Providers -/

def CallContext.inBuffers {σ : Type} (bs : List Bytes) (c : CallContext σ) : CallContext σ :=
  { c with request := c.request.inBuffers bs }

/-- What the providers make depends on the body, but not on how it was cut. -/
def Snapshot.SeesWholeBodies {σ : Type} (s : Snapshot σ) : Prop :=
  ∀ key provider, s.provider? key = some provider →
    ∀ (c : CallContext σ) (bs : List Bytes), bs.flatten = c.request.body →
      provider.create (c.inBuffers bs) = provider.create c

namespace Binding

variable {σ : Type} {sc : Scope σ}

def Scope.inBuffers (bs : List Bytes) (sc : Scope σ) : Scope σ :=
  { sc with request := sc.request.inBuffers bs }

section Scope

variable (bs) (sc)

@[simp] theorem Scope.request_inBuffers :
    (sc.inBuffers bs).request = sc.request.inBuffers bs := rfl

@[simp] theorem Scope.config_inBuffers : (sc.inBuffers bs).config = sc.config := rfl

@[simp] theorem Scope.snapshot_inBuffers : (sc.inBuffers bs).snapshot = sc.snapshot := rfl

@[simp] theorem Scope.model_inBuffers : (sc.inBuffers bs).model = sc.model := rfl

end Scope

/-! ### What is taken from the body -/

section Body

variable (hbody : bs.flatten = sc.request.body)

include hbody

theorem withForm_inBuffers {α : Type} (st : Progress σ)
    (use : FormData → Disk → Except BindingCause α) :
    withForm (sc.inBuffers bs) st use = withForm sc st use := by
  rw [withForm, withForm, readForm, readForm, Scope.request_inBuffers, Scope.config_inBuffers,
    FormData.extract_inBuffers hbody]

theorem bindContext_inBuffers {target : ValueType} (htarget : target ≠ .request)
    (st : Progress σ) : bindContext (sc.inBuffers bs) target st = bindContext sc target st := by
  rw [bindContext.eq_def, bindContext.eq_def, withForm_inBuffers hbody, Scope.request_inBuffers,
    Scope.config_inBuffers, MultipartForm.ofRequest_inBuffers hbody, Request.isForm_inBuffers,
    Request.queryParams_inBuffers]
  split
  · exact absurd rfl htarget
  all_goals rfl

theorem bindKeyed_inBuffers (p : Parameter) (key : String) (c : Converter) (st : Progress σ)
    (source : KeyedSource) :
    bindKeyed (sc.inBuffers bs) p key c st source = bindKeyed sc p key c st source := by
  cases source
  case form => exact withForm_inBuffers hbody st _
  case formData => exact withForm_inBuffers hbody st _
  all_goals rfl

end Body

/-! ### Stages of binding -/

section Stages

variable (hbody : bs.flatten = sc.request.body) (hproviders : sc.snapshot.SeesWholeBodies)

include hbody hproviders

theorem provide_inBuffers (key : ContextKey) (expected : ValueType) (st : CallState σ) :
    provide (sc.inBuffers bs) key expected st = provide sc key expected st := by
  have hcontext : (sc.inBuffers bs).model.context (sc.inBuffers bs).request =
      (sc.model.context sc.request).inBuffers bs := rfl
  rw [provide, provide, Scope.snapshot_inBuffers, hcontext]
  cases hprovider : sc.snapshot.provider? key with
  | none => rfl
  | some provider =>
      dsimp only
      rw [hproviders key provider hprovider (sc.model.context sc.request) bs hbody]

theorem injectFields_inBuffers (fields : List Field) (st : CallState σ) :
    injectFields (sc.inBuffers bs) fields st = injectFields sc fields st := by
  induction fields generalizing st with
  | nil => rfl
  | cons field fields ih =>
      rw [injectFields, injectFields, provide_inBuffers hbody hproviders]
      rcases provide sc field.contextKey field.declared st with ⟨cause | arg, st⟩
      · rfl
      · exact ih _

theorem provideAll_inBuffers (qualifier : Option String) (ps : List Parameter)
    (st : CallState σ) :
    provideAll (sc.inBuffers bs) qualifier ps st = provideAll sc qualifier ps st := by
  induction ps generalizing st with
  | nil => rfl
  | cons p ps ih =>
      rw [provideAll, provideAll, provide_inBuffers hbody hproviders]
      rcases provide sc (.new p.target qualifier) p.target st with ⟨cause | arg, st⟩
      · rfl
      · dsimp only
        rw [ih]

/-- A parameter that is not the request itself is bound in the same way. -/
theorem bindParameter_inBuffers {p : Parameter} (hp : p.binding ≠ .context .request)
    (st : Progress σ) : bindParameter (sc.inBuffers bs) p st = bindParameter sc p st := by
  rw [bindParameter, bindParameter]
  split
  · exact bindKeyed_inBuffers hbody p _ _ st _
  · rw [Scope.request_inBuffers, Scope.snapshot_inBuffers, Scope.config_inBuffers,
      Parameter.bindBody_inBuffers hbody]
  · next target hbinding =>
    refine bindContext_inBuffers hbody (fun htarget => ?_) st
    exact hp (hbinding.trans (congrArg ParameterBinding.context htarget))
  · rw [provide_inBuffers hbody hproviders]

theorem bindParameters_inBuffers {ps : List Parameter}
    (hps : ∀ p ∈ ps, p.binding ≠ .context .request) (st : Progress σ) :
    bindParameters (sc.inBuffers bs) ps st = bindParameters sc ps st := by
  induction ps generalizing st with
  | nil => rfl
  | cons p ps ih =>
      obtain ⟨hp, hps⟩ := List.forall_mem_cons.1 hps
      rw [bindParameters, bindParameters, bindParameter_inBuffers hbody hproviders hp]
      rcases bindParameter sc p st with ⟨cause | arg, st⟩
      · rfl
      · dsimp only
        rw [ih hps]

theorem bindArguments_inBuffers
    (hparams : ∀ p ∈ sc.model.params, p.binding ≠ .context .request) (st : Progress σ) :
    bindArguments (sc.inBuffers bs) st = bindArguments sc st := by
  rw [bindArguments, bindArguments, Scope.model_inBuffers,
    bindParameters_inBuffers hbody hproviders hparams]
  rcases bindParameters sc sc.model.params st with ⟨cause | args, st⟩
  · rfl
  · cases sc.model.methodContext with
    | none => rfl
    | some directive =>
        dsimp only
        rw [provideAll_inBuffers hbody hproviders]

theorem prepare_inBuffers (hparams : ∀ p ∈ sc.model.params, p.binding ≠ .context .request)
    (call : CallState σ) (d : Disk) :
    prepare (sc.inBuffers bs) call d = prepare sc call d := by
  rw [prepare, prepare, Scope.model_inBuffers, injectFields_inBuffers hbody hproviders]
  rcases injectFields sc sc.model.fields call with ⟨cause | _, call⟩
  · rfl
  · exact bindArguments_inBuffers hbody hproviders hparams _

theorem bind_eq_of_flatten (hparams : ∀ p ∈ sc.model.params, p.binding ≠ .context .request)
    (call : CallState σ) (d : Disk) : bind (sc.inBuffers bs) call d = bind sc call d := by
  rw [bind, bind, prepare_inBuffers hbody hproviders hparams, Scope.model_inBuffers,
    Scope.request_inBuffers, Request.line_inBuffers]

end Stages

/-- However a body is cut into buffers, the call is the same, unless the application asks for the
buffers: by a parameter that is the request itself, or by a provider that looks at them. On the same
disk binding gives the same call or the same error, and leaves the same behind. On any other disk,
where a directory can be made as well or as badly, it gives the same but for the name of the
request's directory, and each tracked file holds the same. -/
theorem bind_inBuffers (sc : Scope σ) (hbody : bs.flatten = sc.request.body)
    (hproviders : sc.snapshot.SeesWholeBodies)
    (hparams : ∀ p ∈ sc.model.params, p.binding ≠ .context .request) (call : CallState σ)
    (d : Disk) :
    bind (sc.inBuffers bs) call d = bind sc call d ∧
      ∀ d', d'.rootError = d.rootError →
        (bind (sc.inBuffers bs) call d').1 =
            (bind sc call d).1.map (BoundCall.inDirectory d'.next) ∧
          (bind (sc.inBuffers bs) call d').2.1 = (bind sc call d).2.1 ∧
          ∀ b, (bind sc call d).1 = .ok b → ∀ path ∈ b.scratch.files, ∃ data,
            (bind sc call d).2.2.read? path = some data ∧
              (bind (sc.inBuffers bs) call d').2.2.read? (path.inDirectory d'.next) =
                some data := by
  have hsame (d : Disk) := bind_eq_of_flatten hbody hproviders hparams call d
  refine ⟨hsame d, fun d' hroot => ?_⟩
  rw [hsame d']
  exact bind_on_disk sc call hroot

/-- A provider that gives the whole body. -/
def givesBody : Provider Unit where
  key := .new .stream none
  create c st := (.ok (some (.stream c.request.body)), st)

/-- A method that takes the body, by way of a provider, and an upload. -/
def takesBoth : ResourceModel Unit where
  name := "take"
  service := { id := 0, name := "forms" }
  params := [{ binding := .customContext .stream }, { binding := .keyed .form "f" .formFile }]
  handler := fun _ _ st => (.ok .empty, st)

/-- A request for it, in one piece. -/
def sendsUpload : Scope Unit where
  config := { }
  snapshot := { providers := [(givesBody.key.text, givesBody)] }
  model := takesBoth
  request :=
    { method := "POST", uri := "/",
      headers := [("content-type", [Utf8.encode "multipart/form-data; boundary=b"])],
      buffers := [Utf8.encode
        "--b\r\nContent-Disposition: form-data; name=\"f\"; filename=\"é\"\r\n\r\nhi\r\n--b--"] }
  captures := []

/-- A body in pieces of one byte, with empty ones between them. -/
def bytewise (body : Bytes) : List Bytes := body.flatMap fun b => [[b], []]

theorem flatten_bytewise (body : Bytes) : (bytewise body).flatten = body := by
  induction body with
  | nil => rfl
  | cons b body ih => exact congrArg (b :: ·) ih

/-- A disk on which another request has its directory. -/
def usedDisk : Disk where
  directories := [(3, [("é", [1])])]
  next := 7
  lt_next := by simp

theorem seesWholeBodies_sendsUpload : sendsUpload.snapshot.SeesWholeBodies := by
  intro key provider hprovider c bs hbs
  obtain rfl : provider = givesBody := by
    rw [Snapshot.provider?, sendsUpload] at hprovider
    rw [Table.get?_cons] at hprovider
    split at hprovider
    · exact (Option.some.inj hprovider).symm
    · cases hprovider
  funext st
  simp only [givesBody, CallContext.inBuffers, Request.body_inBuffers hbs]

theorem bind_inBuffers_bytewise :
    let bs := bytewise sendsUpload.request.body
    bs.flatten = sendsUpload.request.body ∧ sendsUpload.snapshot.SeesWholeBodies ∧
      (∀ p ∈ sendsUpload.model.params, p.binding ≠ .context .request) ∧
      usedDisk.rootError = Disk.rootError {} ∧
      ∃ b, (bind sendsUpload ⟨(), [], {}⟩ {}).1 = .ok b ∧
        (bind (sendsUpload.inBuffers bs) ⟨(), [], {}⟩ usedDisk).1 = .ok (b.inDirectory 7) ∧
        b.scratch.files = [⟨0, "é"⟩] ∧
        (bind (sendsUpload.inBuffers bs) ⟨(), [], {}⟩ usedDisk).2.2.read? ⟨7, "é"⟩ =
          some (Utf8.encode "hi") := by
  have hbody := flatten_bytewise sendsUpload.request.body
  have hparams : ∀ p ∈ sendsUpload.model.params, p.binding ≠ .context .request := by
    simp [sendsUpload, takesBoth]
  have hbind : (bind sendsUpload ⟨(), [], {}⟩ {}).1.toOption.map (fun b => b.scratch.files) =
      some [⟨0, "é"⟩] ∧
        (bind sendsUpload ⟨(), [], {}⟩ {}).2.2.read? ⟨0, "é"⟩ = some (Utf8.encode "hi") := by
    decide +kernel
  obtain ⟨hfiles, hread⟩ := hbind
  obtain ⟨-, helsewhere⟩ := bind_inBuffers sendsUpload hbody seesWholeBodies_sendsUpload hparams
    ⟨(), [], {}⟩ {}
  obtain ⟨hbound, -, hcontents⟩ := helsewhere usedDisk rfl
  cases hb : (bind sendsUpload ⟨(), [], {}⟩ {}).1 with
  | error error =>
      rw [hb] at hfiles
      cases hfiles
  | ok b =>
      rw [hb] at hfiles hbound
      have hfiles : b.scratch.files = [⟨0, "é"⟩] := Option.some.inj hfiles
      obtain ⟨data, hdata, hdata'⟩ := hcontents b hb ⟨0, "é"⟩ (by simp [hfiles])
      exact ⟨hbody, seesWholeBodies_sendsUpload, hparams, rfl, b, rfl, hbound, hfiles,
        hdata'.trans (hdata.symm.trans hread)⟩

end Binding

end ServiceDispatch
