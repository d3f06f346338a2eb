import ServiceDispatch.Binding.Call
import ServiceDispatch.Proofs.Binding.Value

/-!
# Uploads while a request is bound

While the parameters of a method are bound, the disk is either as it was or what reading the
form once, from the beginning, made of it: `Progress.Consistent`. A parameter that fails leaves a
disk that the scratch files still own, so giving them up restores what was there.

`Ends` puts both together for one stage of binding: it tells what holds if the stage succeeds and
what is left if it does not. The stages are then taken in the order in which binding calls them.
-/

namespace ServiceDispatch

namespace Binding

variable {σ : Type}

/-- The application hands the file in: one of its providers makes it, or it stands in a default
of a type that the application declares. -/
inductive HandedIn (sc : Scope σ) (f : FormFile) : Prop where
  | provider {key : ContextKey} {provider : Provider σ} {context : CallContext σ}
      {st st' : CallState σ} {arg : Arg} (registered : sc.snapshot.provider? key = some provider)
      (made : provider.create context st = (.ok arg, st')) (reaches : arg.Reaches f)
  | default {p : Parameter} {c : Converter} (hp : p ∈ sc.model.params)
      (hc : p.converter? = some c) (supplies : c.Supplies f)

/-- The file is one of the form's or the application's. -/
def Comes (sc : Scope σ) (form : Option FormData) (f : FormFile) : Prop :=
  HandedIn sc f ∨ ∃ data, form = some data ∧ data.params.Holds f

/-- The form was not read, and nothing happened on disk, or it was read from the beginning. -/
inductive Progress.Consistent (sc : Scope σ) (d : Disk) (st : Progress σ) : Prop where
  | unread (form : st.form = none) (scratch : st.scratch = {}) (disk : st.disk = d)
  | read {data : FormData} (form : st.form = some data)
      (extracted : FormData.extract sc.request sc.config.formLimits {} d =
        (.ok data, st.scratch, st.disk))

/-- How a stage of binding ends that began with `st`: consistently, with all that was known of
the form and with a result as wanted, or with scratch files that own what they made. -/
def Ends {α : Type} (sc : Scope σ) (d : Disk) (st : Progress σ)
    (wanted : Option FormData → α → Prop) : Except BindingCause α × Progress σ → Prop
  | (.ok a, st') => st'.Consistent sc d ∧ (∀ data, st.form = some data → st'.form = some data) ∧
      wanted st'.form a
  | (.error _, st') => st'.scratch.Owns d st'.disk

section Stages

variable {sc : Scope σ} {d : Disk} {st : Progress σ}

theorem Progress.Consistent.owns (h : st.Consistent sc d) : st.scratch.Owns d st.disk := by
  cases h with
  | unread form scratch disk =>
      rw [scratch, disk]
      exact .unused rfl rfl
  | read form extracted =>
      have howns := FormData.Owns.extract (.unused rfl rfl : Scratch.Owns d {} d) sc.request
        sc.config.formLimits
      rw [extracted] at howns
      exact howns

/-- A form that is known is that of the body's parts, whose files are on disk. -/
theorem Progress.Consistent.isFormOf {data : FormData} (h : st.Consistent sc d)
    (hdata : st.form = some data) :
    data.params.IsFormOf (sc.request.formParts sc.config.maxFormParts) st.disk := by
  cases h with
  | unread form =>
      rw [form] at hdata
      cases hdata
  | read form extracted =>
      obtain rfl := Option.some.inj (form.symm.trans hdata)
      have hparts := FormData.isFormOf_extract extracted
      exact hparts

/-- A stage that changes nothing but what binding notes of the call ends well. -/
theorem ends_of_unchanged {α : Type} {wanted : Option FormData → α → Prop}
    {r : Except BindingCause α × Progress σ} (h : st.Consistent sc d) (hform : r.2.form = st.form)
    (hscratch : r.2.scratch = st.scratch) (hdisk : r.2.disk = st.disk)
    (hr : ∀ a, r.1 = .ok a → wanted st.form a) : Ends sc d st wanted r := by
  obtain ⟨result, st'⟩ := r
  dsimp only at hform hscratch hdisk
  cases result with
  | error e =>
      rw [Ends, hscratch, hdisk]
      exact h.owns
  | ok a =>
      refine ⟨?_, fun data hdata => hform ▸ hdata, hform ▸ hr a rfl⟩
      cases h with
      | unread form scratch disk =>
          exact .unread (hform.trans form) (hscratch.trans scratch) (hdisk.trans disk)
      | read form extracted =>
          refine .read (hform.trans form) ?_
          rw [hscratch, hdisk]
          exact extracted

theorem ends_readForm (h : st.Consistent sc d) :
    Ends sc d st (fun form data => form = some data) (readForm sc st) := by
  rw [readForm]
  split
  · next data hform =>
    exact ends_of_unchanged h rfl rfl rfl fun a ha => by
      cases ha
      exact hform
  · next hform =>
    -- no form is known, so nothing was stored and reading starts from the beginning
    have hscratch : st.scratch = {} ∧ st.disk = d := by
      cases h with
      | unread _ scratch disk => exact ⟨scratch, disk⟩
      | read form _ =>
          rw [hform] at form
          cases form
    rw [hscratch.1, hscratch.2]
    have howns := FormData.Owns.extract (.unused rfl rfl : Scratch.Owns d {} d) sc.request
      sc.config.formLimits
    split
    · next hextract =>
      rw [hextract] at howns
      exact howns
    · next data scratch disk hextract =>
      refine ⟨.read rfl hextract, fun data' hdata' => ?_, rfl⟩
      rw [hform] at hdata'
      cases hdata'

theorem ends_withForm {α : Type} {use : FormData → Disk → Except BindingCause α}
    {wanted : Option FormData → α → Prop} (h : st.Consistent sc d)
    (huse : ∀ data disk a, use data disk = .ok a → wanted (some data) a) :
    Ends sc d st wanted (withForm sc st use) := by
  have hread := ends_readForm h
  rw [withForm]
  split
  · next heq =>
    rw [heq] at hread
    exact hread
  · next data st' heq =>
    rw [heq] at hread
    obtain ⟨hst', hkeeps, hdata⟩ := hread
    cases hresult : use data st'.disk with
    | error e => exact hst'.owns
    | ok a => exact ⟨hst', hkeeps, hdata ▸ huse data st'.disk a hresult⟩

/-! ### Parameters -/

theorem handedIn_of_provide {key : ContextKey} {expected : ValueType} {call call' : CallState σ}
    {arg : Arg} (h : provide sc key expected call = (.ok arg, call')) {f : FormFile}
    (hf : arg.Reaches f) : HandedIn sc f := by
  rw [provide] at h
  split at h
  · cases h
    obtain ⟨v, ⟨⟩, -⟩ := hf
  · next provider hprovider =>
    split at h
    · cases h
    · next made st hmade =>
      rw [Prod.mk.injEq, checkProduced] at h
      split at h
      · cases h.1
        exact .provider hprovider hmade hf
      · cases h.1

/-- What an argument may have in it: files of the form and of the application. -/
def Accounted (sc : Scope σ) (form : Option FormData) (arg : Arg) : Prop :=
  ∀ f, arg.Reaches f → Comes sc form f

theorem accounted_of_makes {p : Parameter} {c : Converter} {form : Option FormData} {arg : Arg}
    (hp : p ∈ sc.model.params) (hc : p.converter? = some c)
    (h : ∃ v, arg = some v ∧ c.Makes v) : Accounted sc form arg := by
  obtain ⟨v, rfl, hv⟩ := h
  rintro f ⟨w, ⟨⟩, hf⟩
  exact .inl (.default hp hc (hv.supplies hf))

theorem accounted_of_value {form : Option FormData} {v : Value} (h : ∀ f, ¬ v.Reaches f) :
    Accounted sc form (some v) := by
  rintro f ⟨w, ⟨⟩, hw⟩
  exact absurd hw (h f)

theorem ends_value {st' : Progress σ} {v : Value} (h : st.Consistent sc d)
    (hform : st'.form = st.form) (hscratch : st'.scratch = st.scratch) (hdisk : st'.disk = st.disk)
    (hv : ∀ f, ¬ v.Reaches f) : Ends sc d st (Accounted sc) (.ok (some v), st') := by
  refine ends_of_unchanged h hform hscratch hdisk fun arg harg => ?_
  obtain rfl := Except.ok.inj harg
  exact accounted_of_value hv

theorem ends_bindContext {target : ValueType} (h : st.Consistent sc d) :
    Ends sc d st (Accounted sc) (bindContext sc target st) := by
  rw [bindContext.eq_def]
  split
  · exact ends_value h rfl rfl rfl fun f => by rintro ⟨⟩
  · exact ends_value h rfl rfl rfl fun f => by rintro ⟨⟩
  · exact ends_value h rfl rfl rfl fun f => by rintro ⟨⟩
  · split
    · exact ends_value h rfl rfl rfl fun f => by rintro ⟨⟩
    · exact h.owns
  · split
    · refine ends_withForm h fun data disk arg harg => ?_
      cases harg
      rintro f ⟨v, ⟨⟩, hv⟩
      cases hv with
      | formParams holds => exact .inr ⟨data, rfl, holds⟩
    · refine ends_value h rfl rfl rfl fun f hv => ?_
      cases hv with
      | formParams holds => exact FormParams.not_holds_ofUrlEncoded _ f holds
  · exact h.owns

theorem ends_bindForm {p : Parameter} {c : Converter} {asDocument : Bool} {key : String}
    (hp : p ∈ sc.model.params) (hc : p.converter? = some c) (h : st.Consistent sc d) :
    Ends sc d st (Accounted sc)
      (withForm sc st (p.bindForm c sc.snapshot.converters asDocument key)) := by
  refine ends_withForm h fun data disk arg harg => ?_
  obtain ⟨v, rfl, hv⟩ := Parameter.makes_of_bindForm harg
  rintro f ⟨w, ⟨⟩, hf⟩
  rcases hv with hv | hv
  · exact .inl (.default hp hc (hv.supplies hf))
  · have hfiles := Converter.mem_of_convertFiles hv hf
    exact .inr ⟨data, rfl, FormParams.holds_of_mem_files hfiles⟩

theorem ends_bindKeyed {p : Parameter} {key : String} {c : Converter} {source : KeyedSource}
    (hp : p ∈ sc.model.params) (hc : p.converter? = some c) (h : st.Consistent sc d) :
    Ends sc d st (Accounted sc) (bindKeyed sc p key c st source) := by
  cases source with
  | path =>
      refine ends_of_unchanged h rfl rfl rfl fun arg harg => ?_
      exact accounted_of_makes hp hc (Parameter.makes_of_bindPath harg)
  | query =>
      refine ends_of_unchanged h rfl rfl rfl fun arg harg => ?_
      exact accounted_of_makes hp hc (Parameter.makes_of_convertFound harg)
  | header =>
      refine ends_of_unchanged h rfl rfl rfl fun arg harg => ?_
      exact accounted_of_makes hp hc (Parameter.makes_of_bindHeader harg)
  | cookie =>
      refine ends_of_unchanged h rfl rfl rfl fun arg harg => ?_
      rcases Parameter.makes_of_bindCookie harg with ⟨rfl, -⟩ | hmakes
      · rintro f ⟨v, ⟨⟩, -⟩
      · exact accounted_of_makes hp hc hmakes
  | form => exact ends_bindForm hp hc h
  | formData => exact ends_bindForm hp hc h

theorem ends_bindParameter {p : Parameter} (hp : p ∈ sc.model.params) (h : st.Consistent sc d) :
    Ends sc d st (Accounted sc) (bindParameter sc p st) := by
  rw [bindParameter]
  split
  · next source key c hbinding =>
    exact ends_bindKeyed hp (by rw [Parameter.converter?, hbinding]) h
  · next c hbinding =>
    refine ends_of_unchanged h rfl rfl rfl fun arg harg => ?_
    have hc : p.converter? = some c := by rw [Parameter.converter?, hbinding]
    exact accounted_of_makes hp hc (Parameter.makes_of_bindBody harg)
  · exact ends_bindContext h
  · next target hbinding =>
    refine ends_of_unchanged h rfl rfl rfl fun arg harg f hf => ?_
    exact .inl (handedIn_of_provide (Prod.ext harg rfl) hf)

/-! ### All arguments -/

end Stages

end Binding

namespace Binding

variable {σ : Type} {sc : Scope σ} {call call' : CallState σ} {d d' : Disk}

end Binding

end ServiceDispatch
