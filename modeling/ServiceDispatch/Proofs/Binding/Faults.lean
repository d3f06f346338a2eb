import ServiceDispatch.Proofs.Binding.Uploads
import ServiceDispatch.Proofs.Form.Faults
import ServiceDispatch.Proofs.Form.Limits

/-!
# Faults of binding

Where the application does its part, a request that cannot be bound is at fault itself: it lacks a
value or holds a wrong one, or its form cannot be read. The disk has a part in the latter only by
the length of file names, and it is never at fault later, as the uploads of a form that was read
can be read themselves. That part is real: one upload under a long name is enough.
-/

namespace ServiceDispatch

/-- If it fails, the request is at fault. -/
abbrev BindingCause.OnlyClient {α : Type} (x : Except BindingCause α) : Prop :=
  FailsWith (fun cause => cause.status = 400) x

/-- The files can be read. -/
def Disk.Holds (d : Disk) (files : List FormFile) : Prop := ∀ f ∈ files, (d.read? f.path).isSome

namespace Parameter

open BindingCause

variable (p : Parameter) (c : Converter)

theorem status_cause (e : ConvertFailure) : (p.cause e).status = 400 := by cases e <;> rfl

theorem onlyClient_settle (x : Except ConvertFailure Value) : OnlyClient (p.settle x) := by
  cases x with
  | ok v => exact failsWith_ok _
  | error e => exact failsWith_error (p.status_cause e)

theorem onlyClient_convertTexts (raw : Option (List String)) : OnlyClient (p.convertTexts c raw) :=
  p.onlyClient_settle _

theorem onlyClient_convertText (raw : Option String) : OnlyClient (p.convertText c raw) :=
  p.onlyClient_settle _

theorem onlyClient_convertFound (values : List String) : OnlyClient (p.convertFound c values) := by
  rw [convertFound]
  split
  · exact p.onlyClient_convertText c _
  · exact p.onlyClient_convertTexts c _

theorem onlyClient_convertAs (t : ConverterTable) (mediaType : Option String) (body : Bytes) :
    OnlyClient (p.convertAs c t mediaType body) :=
  p.onlyClient_settle _

theorem onlyClient_bindPath (captured : Option String) : OnlyClient (p.bindPath c captured) := by
  rw [bindPath]
  split
  · exact p.onlyClient_convertText c _
  · exact failsWith_error rfl

theorem onlyClient_bindCookie (key : String) (useDefault : Bool) (header : Option String) :
    OnlyClient (p.bindCookie c key useDefault header) := by
  rw [bindCookie.eq_def]
  split
  · exact p.onlyClient_convertText c _
  · split
    · exact p.onlyClient_convertText c _
    · exact failsWith_ok none

theorem onlyClient_bindTexts (t : ConverterTable) (asDocument : Bool) (partType : Option String)
    (texts : List String) : OnlyClient (p.bindTexts c t asDocument partType texts) := by
  rw [bindTexts]
  split
  · exact p.onlyClient_convertAs c t _ _
  · exact p.onlyClient_convertFound c _

theorem onlyClient_bindUploads (t : ConverterTable) (asDocument : Bool) (partType : Option String)
    (texts : List String) {first : FormFile} {rest : List FormFile} {d : Disk}
    (h : d.Holds (first :: rest)) :
    OnlyClient (p.bindUploads c t asDocument partType texts first rest d) := by
  have hread : ∀ f ∈ first :: rest, ∃ data, readUpload d f = .ok data := by
    intro f hf
    obtain ⟨data, hdata⟩ := Option.isSome_iff_exists.1 (h f hf)
    exact ⟨data, by rw [readUpload, hdata]⟩
  have htext : ∀ f ∈ first :: rest, OnlyClient (p.uploadText d f) := by
    intro f hf
    obtain ⟨data, hdata⟩ := hread f hf
    rw [uploadText, hdata]
    dsimp only
    split
    · exact failsWith_ok _
    · exact failsWith_error rfl
  obtain ⟨data, hdata⟩ := hread first List.mem_cons_self
  have htexts := failsWith_mapM htext
  rw [bindUploads, hdata]
  split
  · exact p.onlyClient_settle _
  · split
    · exact p.onlyClient_convertAs c t _ _
    · split
      · next e heq => exact failsWith_error (htexts e heq)
      · exact p.onlyClient_convertFound c _

theorem onlyClient_bindForm (t : ConverterTable) (asDocument : Bool) (key : String)
    {form : FormData} {d : Disk} (h : d.Holds (FormParams.files key form.params)) :
    OnlyClient (p.bindForm c t asDocument key form d) := by
  rw [bindForm]
  split
  · exact p.onlyClient_bindTexts c t _ _ _
  · next first rest hfiles => exact p.onlyClient_bindUploads c t _ _ _ (hfiles ▸ h)

end Parameter

namespace Binding

variable {σ : Type}

/-- The provider for the key, if there is one, always makes a value of the type or none. -/
def Scope.Provides (sc : Scope σ) (key : ContextKey) (expected : ValueType) : Prop :=
  ∀ provider, sc.snapshot.provider? key = some provider → ∀ st, ∃ arg st',
    provider.create (sc.model.context sc.request) st = (.ok arg, st') ∧
      (arg = none ∨ arg.holds expected = true)

/-- The application does its part in binding the calls of a method. -/
structure Scope.Served (sc : Scope σ) : Prop where
  /-- Objects of the library are asked for by their types. -/
  contexts : ∀ p ∈ sc.model.params, ∀ target, p.binding = .context target →
    target ∈ [.request, .sink, .chunkStream, .multipart, .formParams]
  customs : ∀ p ∈ sc.model.params, ∀ target, p.binding = .customContext target →
    sc.Provides p.contextKey target
  fields : ∀ field ∈ sc.model.fields, sc.Provides field.contextKey field.declared
  arguments : ∀ directive, sc.model.methodContext = some directive → ∀ p ∈ sc.model.params,
    sc.Provides (.new p.target directive.qualifier) p.target

/-- Some upload in the body asks for a name that is too long, if a number below the number of the
uploads may come before it. -/
def Overlong (sc : Scope σ) : Prop :=
  let uploads := Part.uploads (sc.request.readableParts sc.config.maxFormParts)
  ∃ u ∈ uploads, u.Overlong uploads.length

/-- The request is at fault, or the disk refuses the name of an upload that is too long. -/
def AtFault (sc : Scope σ) (cause : BindingCause) : Prop :=
  cause.status = 400 ∨ cause = .form (.disk .nameTooLong) ∧ Overlong sc

section Stages

variable {sc : Scope σ} {d : Disk} {st : Progress σ}

theorem atFault_of_onlyClient {α : Type} {x : Except BindingCause α}
    (h : BindingCause.OnlyClient x) : FailsWith (AtFault sc) x :=
  fun cause hcause => .inl (h cause hcause)

theorem atFault_form_of_client {e : FormError} (h : e.isClientError = true) :
    AtFault sc (.form e) := .inl (by rw [BindingCause.status, if_pos h])

/-! ### The form -/

theorem atFault_readForm (hroot : d.rootError = none) (h : st.Consistent sc d) :
    FailsWith (AtFault sc) (readForm sc st).1 := by
  rw [readForm]
  split
  · exact failsWith_ok _
  · next hform =>
    -- as long as the form is unknown nothing has been stored
    have hfresh : st.scratch = {} ∧ st.disk = d := by
      cases h with
      | unread _ scratch disk => exact ⟨scratch, disk⟩
      | read form _ =>
          rw [hform] at form
          cases form
    rw [hfresh.1, hfresh.2]
    split
    · next e scratch disk hextract =>
      refine failsWith_error ?_
      rcases FormData.extract_error hroot hextract with hclient | ⟨rfl, hlong⟩
      · exact atFault_form_of_client hclient
      · exact .inr ⟨rfl, hlong⟩
    · exact failsWith_ok _

/-- The uploads of the form that is known can be read. -/
theorem Progress.Consistent.holds {data : FormData} (h : st.Consistent sc d)
    (hdata : st.form = some data) (key : String) :
    st.disk.Holds (FormParams.files key data.params) := by
  intro f hf
  obtain ⟨part, -, -, hstored⟩ := (h.isFormOf hdata).exists_part (FormParams.holds_of_mem_files hf)
  rw [hstored.content]
  rfl

theorem atFault_withForm {α : Type} {use : FormData → Disk → Except BindingCause α}
    (hroot : d.rootError = none) (h : st.Consistent sc d)
    (huse : ∀ data disk, (∀ key, disk.Holds (FormParams.files key data.params)) →
      BindingCause.OnlyClient (use data disk)) :
    FailsWith (AtFault sc) (withForm sc st use).1 := by
  have hread := ends_readForm h
  have hfails := atFault_readForm hroot h
  rw [withForm]
  split
  · next heq =>
    rw [heq] at hfails
    exact failsWith_error (hfails _ rfl)
  · next data st' heq =>
    rw [heq] at hread
    obtain ⟨hst', -, hdata⟩ := hread
    exact atFault_of_onlyClient (huse data st'.disk fun key => hst'.holds hdata key)

/-! ### Parameters -/

theorem atFault_provide {key : ContextKey} {expected : ValueType} (h : sc.Provides key expected)
    (call : CallState σ) : FailsWith (AtFault sc) (provide sc key expected call).1 := by
  rw [provide]
  split
  · exact failsWith_ok none
  · next provider hprovider =>
    obtain ⟨arg, call', hmade, hfits⟩ := h provider hprovider call
    rw [hmade]
    have hchecked : checkProduced key expected arg = .ok arg := by
      rw [checkProduced, if_pos]
      rcases hfits with rfl | hholds
      · rfl
      · rw [hholds, Bool.or_true]
    dsimp only
    rw [hchecked]
    exact failsWith_ok arg

theorem atFault_bindContext {target : ValueType} (hroot : d.rootError = none)
    (h : st.Consistent sc d)
    (htarget : target ∈ [.request, .sink, .chunkStream, .multipart, .formParams]) :
    FailsWith (AtFault sc) (bindContext sc target st).1 := by
  rw [bindContext.eq_def]
  split
  · exact failsWith_ok _
  · exact failsWith_ok _
  · exact failsWith_ok _
  · split
    · exact failsWith_ok _
    · next heq =>
      have hclient := MultipartForm.onlyClient_ofRequest _ _ _ heq
      exact failsWith_error (atFault_form_of_client hclient)
  · split
    · exact atFault_withForm hroot h fun _ _ _ => failsWith_ok _
    · exact failsWith_ok _
  · simp_all

theorem atFault_bindKeyed {p : Parameter} {key : String} {c : Converter} (source : KeyedSource)
    (hroot : d.rootError = none) (h : st.Consistent sc d) :
    FailsWith (AtFault sc) (bindKeyed sc p key c st source).1 := by
  cases source with
  | path => exact atFault_of_onlyClient (p.onlyClient_bindPath c _)
  | query => exact atFault_of_onlyClient (p.onlyClient_convertFound c _)
  | header => exact atFault_of_onlyClient (p.onlyClient_convertText c _)
  | cookie => exact atFault_of_onlyClient (p.onlyClient_bindCookie c _ _ _)
  | form | formData =>
      exact atFault_withForm hroot h fun data disk hholds => p.onlyClient_bindForm c _ _ _ (hholds key)

theorem atFault_bindParameter {p : Parameter} (hsc : sc.Served) (hp : p ∈ sc.model.params)
    (hroot : d.rootError = none) (h : st.Consistent sc d) :
    FailsWith (AtFault sc) (bindParameter sc p st).1 := by
  rw [bindParameter]
  split
  · next source key c _ => exact atFault_bindKeyed source hroot h
  · exact atFault_of_onlyClient (p.onlyClient_convertAs _ _ _ _)
  · next target hbinding => exact atFault_bindContext hroot h (hsc.contexts p hp target hbinding)
  · next target hbinding => exact atFault_provide (hsc.customs p hp target hbinding) st.call

/-! ### All arguments -/

theorem atFault_bindParameters {ps : List Parameter} (hsc : sc.Served)
    (hps : ∀ p ∈ ps, p ∈ sc.model.params) (hroot : d.rootError = none) (h : st.Consistent sc d) :
    FailsWith (AtFault sc) (bindParameters sc ps st).1 := by
  induction ps generalizing st with
  | nil => exact failsWith_ok []
  | cons p ps ih =>
      obtain ⟨hp, hothers⟩ := List.forall_mem_cons.1 hps
      have hfails := atFault_bindParameter hsc hp hroot h
      have hends := ends_bindParameter hp h
      rw [bindParameters]
      split
      · next heq =>
        rw [heq] at hfails
        exact failsWith_error (hfails _ rfl)
      · next arg st' heq =>
        rw [heq] at hends
        have hrest := ih hothers hends.1
        split
        · next heq' =>
          rw [heq'] at hrest
          exact failsWith_error (hrest _ rfl)
        · exact failsWith_ok _

theorem atFault_provideAll {qualifier : Option String} {ps : List Parameter}
    (h : ∀ p ∈ ps, sc.Provides (.new p.target qualifier) p.target) (call : CallState σ) :
    FailsWith (AtFault sc) (provideAll sc qualifier ps call).1 := by
  induction ps generalizing call with
  | nil => exact failsWith_ok []
  | cons p ps ih =>
      obtain ⟨hp, hothers⟩ := List.forall_mem_cons.1 h
      have hfails := atFault_provide hp call
      rw [provideAll]
      split
      · next heq =>
        rw [heq] at hfails
        exact failsWith_error (hfails _ rfl)
      · next arg call' heq =>
        have hrest := ih hothers call'
        split
        · next heq' =>
          rw [heq'] at hrest
          exact failsWith_error (hrest _ rfl)
        · exact failsWith_ok _

theorem atFault_injectFields {fields : List Field}
    (h : ∀ field ∈ fields, sc.Provides field.contextKey field.declared) (call : CallState σ) :
    FailsWith (AtFault sc) (injectFields sc fields call).1 := by
  induction fields generalizing call with
  | nil => exact failsWith_ok ()
  | cons field fields ih =>
      obtain ⟨hfield, hothers⟩ := List.forall_mem_cons.1 h
      have hfails := atFault_provide hfield call
      rw [injectFields]
      split
      · next heq =>
        rw [heq] at hfails
        exact failsWith_error (hfails _ rfl)
      · exact ih hothers _

theorem atFault_bindArguments (hsc : sc.Served) (hroot : d.rootError = none)
    (h : st.Consistent sc d) : FailsWith (AtFault sc) (bindArguments sc st).1 := by
  have hfails := atFault_bindParameters hsc (fun _ hp => hp) hroot h
  rw [bindArguments]
  split
  · next heq =>
    rw [heq] at hfails
    exact failsWith_error (hfails _ rfl)
  · split
    · exact failsWith_ok _
    · next directive hdirective => exact atFault_provideAll (hsc.arguments directive hdirective) _

theorem atFault_prepare (hsc : sc.Served) (hroot : d.rootError = none) (call : CallState σ) :
    FailsWith (AtFault sc) (prepare sc call d).1 := by
  have hfails := atFault_injectFields hsc.fields call
  rw [prepare]
  split
  · next heq =>
    rw [heq] at hfails
    exact failsWith_error (hfails _ rfl)
  · exact atFault_bindArguments hsc hroot (.unread rfl rfl rfl)

end Stages

/-- Where the application does its part and the scratch area can be made, a request that cannot be
bound is a bad request, unless the disk refuses an upload of it for the length of its name. -/
theorem status_of_bind_error {sc : Scope σ} {call call' : CallState σ} {d d' : Disk}
    {e : BindingError} (hsc : sc.Served) (hroot : d.rootError = none)
    (h : bind sc call d = (.error e, call', d')) :
    e.status = 400 ∨ e.cause = .form (.disk .nameTooLong) ∧ Overlong sc := by
  have hfails := atFault_prepare hsc hroot call
  rw [bind] at h
  split at h
  · next cause st hprepare =>
    rw [hprepare] at hfails
    cases h
    exact hfails cause rfl
  · cases h

/-- A provider that makes one text. -/
def givesText : Provider Unit where
  key := .new .text none
  create := fun _ st => (.ok (some (.text "x")), st)

/-- A method that takes a text of a provider and a number of the query. -/
def takesNumber : ResourceModel Unit where
  name := "take"
  service := { id := 0, name := "numbers" }
  params := [{ binding := .customContext .text },
    { binding := .keyed .query "n" (.scalar (.integer .u8)) }]
  handler := fun _ _ st => (.ok .empty, st)

theorem status_of_bind_error_no_number :
    let sc : Scope Unit :=
      { config := {}, snapshot := { providers := [(givesText.key.text, givesText)] },
        model := takesNumber, request := { method := "GET", uri := "/?n=x" }, captures := [] }
    sc.Served ∧ ∃ e call' d', bind sc ⟨(), [], {}⟩ {} = (.error e, call', d') ∧
      (e.status = 400 ∨ e.cause = .form (.disk .nameTooLong) ∧ Overlong sc) := by
  intro sc
  have hsc : sc.Served := by
    refine ⟨by simp [sc, takesNumber], fun p hp target hbinding provider hprovider st => ?_,
      by simp [sc, takesNumber], by simp [sc, takesNumber]⟩
    rcases List.mem_cons.1 hp with rfl | hp
    · cases hbinding
      obtain rfl : givesText = provider := Option.some.inj hprovider
      exact ⟨_, _, rfl, .inr rfl⟩
    · rw [List.mem_singleton.1 hp] at hbinding
      cases hbinding
  have hfailed : (bind sc ⟨(), [], {}⟩ {}).1.isOk = false := by decide +kernel
  rcases hbind : bind sc ⟨(), [], {}⟩ {} with ⟨result, call', d'⟩
  rw [hbind] at hfailed
  cases result with
  | error e => exact ⟨hsc, e, call', d', rfl, status_of_bind_error hsc rfl hbind⟩
  | ok b => cases hfailed

/-- A method that takes an upload. -/
def takesUpload : ResourceModel Unit where
  name := "take"
  service := { id := 0, name := "uploads" }
  params := [{ binding := .keyed .formData "file" .formFile }]
  handler := fun _ _ st => (.ok .empty, st)

/-- A request for it with a form of one file under a name. -/
def sendsNamed (name : String) : Scope Unit where
  config := {}
  snapshot := .initial
  model := takesUpload
  request :=
    { method := "POST", uri := "/",
      headers := [("content-type", [Utf8.encode (FormEntry.formType "b")])],
      buffers := [FormEntry.writeForm [] [] (Utf8.encode "b") [⟨"file", some name, none, []⟩]] }
  captures := []

theorem served_sendsNamed (name : String) : (sendsNamed name).Served := by
  constructor <;> simp [sendsNamed, takesUpload]

theorem results_sendsNamed {name : String} (hname : IsHeaderText name) {limit : Nat}
    (hlimit : 1 ≤ limit) :
    MultipartForm.results ⟨"b", limit, (sendsNamed name).request.body⟩ =
      [.ok (FormEntry.part ⟨"file", some name, none, []⟩)] := by
  have hfield : Text.trim "file" = "file" := by decide
  have hdata : ¬ Multipart.delimiter (Utf8.encode "b") <:+: [] := by decide
  have hboundary : 13 ∉ Utf8.encode "b" ∧ 10 ∉ Utf8.encode "b" := by decide
  have hpreamble : ¬ Multipart.dashes ++ Utf8.encode "b" <:+: [] := by decide
  have hwritable : ∀ e ∈ [(⟨"file", some name, none, []⟩ : FormEntry)],
      e.Writable (Utf8.encode "b") := by
    intro e he
    obtain rfl := List.mem_singleton.1 he
    refine ⟨⟨by simp, hfield⟩, ?_, ?_, hdata⟩
    · rintro f ⟨⟩
      exact hname
    · rintro t ⟨⟩
  have hbody : (sendsNamed name).request.body =
      FormEntry.writeForm [] [] (Utf8.encode "b") [⟨"file", some name, none, []⟩] :=
    List.append_nil _
  have hparse : MultipartForm.parse ⟨"b", limit, (sendsNamed name).request.body⟩ =
      .ok [FormEntry.part ⟨"file", some name, none, []⟩] := by
    rw [hbody]
    exact MultipartForm.parse_eq_ok_iff.2 ⟨_,
      FormEntry.isBody_writeForm [] hboundary (.inl rfl) hpreamble hwritable, hlimit,
      .cons (FormEntry.describes_text (hwritable _ List.mem_cons_self)) .nil⟩
  exact MultipartForm.parse_eq_ok_iff_results.1 hparse

theorem extract_sendsNamed {name : String} (hname : FileName.IsPlain name)
    (hlong : Disk.nameLimit < name.length) :
    ∃ s' d', FormData.extract (sendsNamed name).request (sendsNamed name).config.formLimits {} {} =
      (.error (.disk .nameTooLong), s', d') := by
  have hheader : Headers.text? "content-type"
      [("content-type", [Utf8.encode (FormEntry.formType "b")])] =
        some (FormEntry.formType "b") := by
    decide
  have hct : (sendsNamed name).request.contentType? = some (FormEntry.formType "b") := hheader
  have htype : MediaType.essence (FormEntry.formType "b") = MediaType.multipartForm := by decide
  have hboundary : MultipartForm.boundaryOf (FormEntry.formType "b") = .ok "b" :=
    FormEntry.boundaryOf_formType (by decide) ⟨by simp, by decide⟩
  have hwanted : (FormEntry.part ⟨"file", some name, none, []⟩).upload.wantedName = name :=
    Upload.wantedName_of_isPlain rfl hname (Nat.lt_trans (by decide) hlong)
  have hlimit : 1 ≤ (sendsNamed name).config.formLimits.maxParts := by
    show 1 ≤ MultipartForm.standardLimit
    decide
  have hmedia : (sendsNamed name).request.mediaType? = some MediaType.multipartForm :=
    Option.map_eq_some_iff.2 ⟨_, hct, htype⟩
  rw [FormData.extract_of_multipart hmedia, FormData.excess?_eq_none_iff.2 (by rintro limit ⟨⟩),
    MultipartForm.ofRequest_of_multipart hct htype, hboundary]
  dsimp only [Except.map]
  rw [results_sendsNamed hname.isHeaderText hlimit]
  refine FormData.collect_of_long rfl rfl ?_
  rwa [hwanted, hname.length_encode]

/-- Under a plain name that is too long the form cannot be read. -/
theorem bind_sendsNamed {name : String} (hname : FileName.IsPlain name)
    (hlong : Disk.nameLimit < name.length) :
    ∃ e call' d', bind (sendsNamed name) ⟨(), [], {}⟩ {} = (.error e, call', d') ∧
      e.cause = .form (.disk .nameTooLong) := by
  obtain ⟨s', d', hextract⟩ := extract_sendsNamed hname hlong
  have hread : ∃ st', readForm (sendsNamed name) ⟨⟨(), [], {}⟩, {}, {}, none, false⟩ =
      (.error (.form (.disk .nameTooLong)), st') := by
    rw [readForm]
    dsimp only
    rw [hextract]
    exact ⟨_, rfl⟩
  obtain ⟨st', hread⟩ := hread
  have hprepare : prepare (sendsNamed name) ⟨(), [], {}⟩ {} =
      (.error (.form (.disk .nameTooLong)), st') := by
    have hmodel : (sendsNamed name).model = takesUpload := rfl
    simp only [prepare, hmodel, takesUpload, injectFields, bindArguments, bindParameters,
      bindParameter, bindKeyed, withForm, hread]
  rw [bind, hprepare]
  exact ⟨_, _, _, rfl, rfl⟩

/-- A name of 256 letters makes it a failure of the server. -/
theorem status_of_long_name :
    let sc := sendsNamed (String.ofList (List.replicate 256 'a'))
    sc.Served ∧ ∃ e call' d', bind sc ⟨(), [], {}⟩ {} = (.error e, call', d') ∧
      e.status = 500 := by
  intro sc
  have hplain : FileName.IsPlain (String.ofList (List.replicate 256 'a')) := by
    intro c hc
    rw [String.toList_ofList] at hc
    rw [List.eq_of_mem_replicate hc]
    decide
  have hlong : Disk.nameLimit < (String.ofList (List.replicate 256 'a')).length := by
    rw [String.length_ofList, List.length_replicate]
    decide
  obtain ⟨e, call', d', hbind, hcause⟩ := bind_sendsNamed hplain hlong
  refine ⟨served_sendsNamed _, e, call', d', hbind, ?_⟩
  rw [BindingError.status, hcause]
  rfl

end Binding

end ServiceDispatch
