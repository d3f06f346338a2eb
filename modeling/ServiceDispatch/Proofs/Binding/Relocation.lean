import ServiceDispatch.Binding.Call
import ServiceDispatch.Proofs.Binding.Value
import ServiceDispatch.Proofs.Form.Relocation

/-!
# A call on another disk

The same call can be bound on two disks on which other requests have left other directories. The
name of its own directory is then all that differs: `BoundCall.inDirectory` puts another in its
place, in the form, in the tracked files and in the arguments that were made of uploads.
-/

namespace ServiceDispatch

/-! ### Values of uploads -/

/-- The value with the uploads that it was made of in another directory. -/
def Value.inDirectory (n : Nat) : Value → Value
  | .formFile f => .formFile (f.inDirectory n)
  | .list .formFile vs => .list .formFile (vs.map fun v => match v with
    | .formFile f => .formFile (f.inDirectory n)
    | v => v)
  | .formParams p => .formParams (p.inDirectory n)
  | v => v

def Arg.inDirectory (n : Nat) (arg : Arg) : Arg := arg.map (Value.inDirectory n)

theorem Value.inDirectory_of_type (n : Nat) {v : Value} (hfile : v.type ≠ .formFile)
    (hfiles : v.type ≠ .list .formFile) (hform : v.type ≠ .formParams) : v.inDirectory n = v := by
  rw [inDirectory.eq_def]
  split
  · exact absurd rfl hfile
  · exact absurd rfl hfiles
  · exact absurd rfl hform
  · rfl

namespace Converter

variable {c : Converter} {v : Value}

/-- What is made of texts or of a body is no file. -/
theorem Makes.ne_formFile (h : c.Makes v) : c ≠ .formFile ∧ c ≠ .formFiles := by
  constructor
  all_goals
    rintro rfl
    cases h with
    | of_texts h =>
        rw [convert] at h
        exact onlyFiles_ne_ok h
    | of_body h =>
        rw [convertBody.eq_def] at h
        dsimp only at h
        split at h
        · rw [convert] at h
          exact onlyFiles_ne_ok h
        · cases h

theorem target_ne_upload (hfile : c ≠ .formFile) (hfiles : c ≠ .formFiles) :
    c.target ≠ .formFile ∧ c.target ≠ .list .formFile ∧ c.target ≠ .formParams := by
  cases c with
  | scalar k => cases k <;> simp [target, Scalar.type]
  | list k => cases k <;> simp [target, Scalar.type]
  | bean s =>
      cases s with
      | list s => cases s <;> simp [target, Schema.type]
      | _ => simp [target, Schema.type]
  | formFile => exact absurd rfl hfile
  | formFiles => exact absurd rfl hfiles
  | _ => simp [target]

theorem Makes.inDirectory (h : c.Makes v) (n : Nat) : v.inDirectory n = v := by
  obtain ⟨hfile, hfiles⟩ := h.ne_formFile
  obtain ⟨htarget, htarget', htarget''⟩ := target_ne_upload hfile hfiles
  rw [← h.hasType.type_eq] at htarget htarget' htarget''
  exact v.inDirectory_of_type n htarget htarget' htarget''

/-- Uploads in another directory that hold the same are converted to the same. -/
theorem convertFiles_inDirectory (c : Converter) (n : Nat) {e e' : Disk} {files : List FormFile}
    (h : ∀ f ∈ files, e'.read? (f.path.inDirectory n) = e.read? f.path) :
    c.convertFiles e' (files.map (FormFile.inDirectory n)) =
      (c.convertFiles e files).map (Except.map (Value.inDirectory n)) := by
  cases c with
  | byteStream =>
      cases files with
      | nil => rfl
      | cons f files =>
          simp only [convertFiles, openFirst?, List.map_cons, List.head?_cons, Option.map_some]
          rw [FormFile.inDirectory, h f List.mem_cons_self]
          cases e.read? f.path <;> rfl
  | fileInfo => cases files <;> rfl
  | formFile => cases files <;> rfl
  | formFiles =>
      simp only [convertFiles, Option.map_some, Except.map, Value.inDirectory, List.map_map]
      rfl
  | _ => rfl

end Converter

/-! ### Parameters -/

namespace Parameter

variable {p : Parameter} {c : Converter} {e e' : Disk} {n : Nat}

/-- The argument of a parameter with its uploads in another directory. What a provider has made is
the same on every disk. -/
def relocate (n : Nat) (p : Parameter) (arg : Arg) : Arg :=
  match p.binding with
  | .customContext _ => arg
  | _ => arg.inDirectory n

theorem map_inDirectory_of_makes {r : Except BindingCause Arg}
    (h : ∀ arg, r = .ok arg → arg = none ∨ ∃ v, arg = some v ∧ c.Makes v) (n : Nat) :
    r.map (Arg.inDirectory n) = r := by
  cases r with
  | error cause => rfl
  | ok arg =>
      rcases h arg rfl with rfl | ⟨v, rfl, hv⟩
      · rfl
      · rw [Except.map, Arg.inDirectory, Option.map_some, hv.inDirectory]

theorem settle_inDirectory (p : Parameter) (n : Nat) (r : Except ConvertFailure Value) :
    p.settle (r.map (Value.inDirectory n)) = (p.settle r).map (Arg.inDirectory n) := by
  cases r <;> rfl

theorem readUpload_inDirectory {f : FormFile}
    (h : e'.read? (f.path.inDirectory n) = e.read? f.path) :
    readUpload e' (f.inDirectory n) = readUpload e f := by
  rw [readUpload, readUpload, FormFile.inDirectory, h]

theorem mapM_uploadText_inDirectory (p : Parameter) {files : List FormFile}
    (h : ∀ f ∈ files, e'.read? (f.path.inDirectory n) = e.read? f.path) :
    (files.map (FormFile.inDirectory n)).mapM (p.uploadText e') =
      files.mapM (p.uploadText e) := by
  induction files with
  | nil => rfl
  | cons f files ih =>
      obtain ⟨hf, hfiles⟩ := List.forall_mem_cons.1 h
      rw [List.map_cons, List.mapM_cons, List.mapM_cons, ih hfiles, uploadText, uploadText,
        readUpload_inDirectory hf]

theorem bindUploads_inDirectory (p : Parameter) (c : Converter) (t : ConverterTable)
    (asDocument : Bool) (partType : Option String) (texts : List String) {first : FormFile}
    {rest : List FormFile}
    (h : ∀ f ∈ first :: rest, e'.read? (f.path.inDirectory n) = e.read? f.path) :
    p.bindUploads c t asDocument partType texts (first.inDirectory n)
        (rest.map (FormFile.inDirectory n)) e' =
      (p.bindUploads c t asDocument partType texts first rest e).map (Arg.inDirectory n) := by
  rw [bindUploads, bindUploads, ← List.map_cons, c.convertFiles_inDirectory n h,
    p.mapM_uploadText_inDirectory h, readUpload_inDirectory (h first List.mem_cons_self)]
  cases c.convertFiles e (first :: rest) with
  | some result => exact p.settle_inDirectory n result
  | none =>
      rw [Option.map_none]
      dsimp only
      split
      · cases readUpload e first with
        | error cause => rfl
        | ok data =>
            exact (map_inDirectory_of_makes (fun _ h => .inr (makes_of_convertAs h)) n).symm
      · cases (first :: rest).mapM (p.uploadText e) with
        | error cause => rfl
        | ok uploads =>
            exact (map_inDirectory_of_makes (fun _ h => .inr (makes_of_convertFound h)) n).symm

/-- A form field is bound to the same if the files of the form hold the same. -/
theorem bindForm_inDirectory (p : Parameter) (c : Converter) (t : ConverterTable)
    (asDocument : Bool) (key : String) {form : FormData}
    (h : ∀ f, form.params.Holds f → e'.read? (f.path.inDirectory n) = e.read? f.path) :
    p.bindForm c t asDocument key (form.inDirectory n) e' =
      (p.bindForm c t asDocument key form e).map (Arg.inDirectory n) := by
  rw [bindForm, bindForm, FormData.inDirectory, FormParams.texts_inDirectory,
    FormParams.files_inDirectory]
  cases hfiles : FormParams.files key form.params with
  | nil => exact (map_inDirectory_of_makes (fun _ h => .inr (makes_of_bindTexts h)) n).symm
  | cons first rest =>
      refine bindUploads_inDirectory p c t asDocument _ _ fun f hf => h f ?_
      exact FormParams.holds_of_mem_files (hfiles ▸ hf)

end Parameter

/-- The arguments of a method with their uploads in another directory. If providers make all of
them, they are the same on every disk. -/
def ResourceModel.relocate {σ : Type} (n : Nat) (m : ResourceModel σ) (args : List Arg) :
    List Arg :=
  if m.methodContext.isSome then args else List.zipWith (Parameter.relocate n) m.params args

/-! ### Two disks -/

namespace Binding

variable {σ : Type} {d d' e' : Disk} {st : Progress σ}

/-- How far binding has come on another disk. -/
def Progress.elsewhere (n : Nat) (e' : Disk) (st : Progress σ) : Progress σ :=
  { st with
    disk := e'
    scratch := st.scratch.inDirectory n
    form := st.form.map (FormData.inDirectory n) }

/-- Binding, which began with `d`, has come as far on a disk that is `e'` now and was `d'`. -/
structure Progress.Alongside (d d' : Disk) (st : Progress σ) (e' : Disk) : Prop where
  scratch : st.scratch.Alongside d d' st.disk e'
  tracked : ∀ form, st.form = some form → ∀ f, form.params.Holds f → f.path ∈ st.scratch.files

/-- A stage of binding ends in the same way on both disks. -/
inductive Mirrors {α : Type} (d d' : Disk) (move : α → α) :
    Except BindingCause α × Progress σ → Except BindingCause α × Progress σ → Prop where
  | error {st : Progress σ} {e' : Disk} (cause : BindingCause) (h : st.Alongside d d' e') :
      Mirrors d d' move (.error cause, st) (.error cause, st.elsewhere d'.next e')
  | ok {st : Progress σ} {e' : Disk} (a : α) (h : st.Alongside d d' e') :
      Mirrors d d' move (.ok a, st) (.ok (move a), st.elsewhere d'.next e')

/-- What binding notes beside the form does not matter. -/
theorem Progress.Alongside.notes (h : st.Alongside d d' e') (call : CallState σ)
    (streaming : Bool) : ({ st with call, streaming } : Progress σ).Alongside d d' e' :=
  ⟨h.scratch, h.tracked⟩

theorem Progress.Alongside.mirrors {α : Type} (h : st.Alongside d d' e') (move : α → α)
    (x : Except BindingCause α) :
    Mirrors d d' move (x, st) (x.map move, st.elsewhere d'.next e') := by
  cases x with
  | error cause => exact .error cause h
  | ok a => exact .ok a h

theorem Progress.Alongside.mirrors_of_map {α : Type} (h : st.Alongside d d' e') {move : α → α}
    {x : Except BindingCause α} (hx : x.map move = x) :
    Mirrors d d' move (x, st) (x, st.elsewhere d'.next e') := by
  have hmirrors := h.mirrors move x
  rwa [hx] at hmirrors

/-- What a converter makes without uploads is the same on every disk. -/
theorem Progress.Alongside.mirrors_of_makes (h : st.Alongside d d' e') {c : Converter}
    {x : Except BindingCause Arg}
    (hx : ∀ arg, x = .ok arg → arg = none ∨ ∃ v, arg = some v ∧ c.Makes v) :
    Mirrors d d' (Arg.inDirectory d'.next) (x, st) (x, st.elsewhere d'.next e') :=
  h.mirrors_of_map (Parameter.map_inDirectory_of_makes hx d'.next)

variable (sc : Scope σ)

/-- A form that was read is the one that is kept. -/
theorem form_readForm (st : Progress σ) {form : FormData} (h : (readForm sc st).1 = .ok form) :
    (readForm sc st).2.form = some form := by
  rw [readForm] at h ⊢
  split at h
  · next hform =>
    cases h
    exact hform
  · next hform =>
    rcases hextract : FormData.extract sc.request sc.config.formLimits st.scratch st.disk with
      ⟨error | form', s, e⟩
    · rw [hextract] at h
      cases h
    · rw [hextract] at h
      cases h
      rfl

theorem mirrors_readForm (h : st.Alongside d d' e') :
    Mirrors d d' (FormData.inDirectory d'.next) (readForm sc st)
      (readForm sc (st.elsewhere d'.next e')) := by
  cases hform : st.form with
  | some form =>
      have hform' : (st.elsewhere d'.next e').form = some (form.inDirectory d'.next) := by
        rw [Progress.elsewhere, hform, Option.map_some]
      rw [readForm, readForm, hform, hform']
      exact .ok form h
  | none =>
      have hform' : (st.elsewhere d'.next e').form = none := by
        rw [Progress.elsewhere, hform, Option.map_none]
      have hextract := FormData.mirrors_extract h.scratch sc.request sc.config.formLimits
      rw [readForm, readForm, hform, hform']
      dsimp only [Progress.elsewhere]
      generalize hr : FormData.extract sc.request sc.config.formLimits st.scratch st.disk = r
        at hextract ⊢
      generalize FormData.extract sc.request sc.config.formLimits
        (st.scratch.inDirectory d'.next) e' = r' at hextract ⊢
      cases hextract with
      | @error s e e' error halongside =>
          have hends : Progress.Alongside d d' { st with scratch := s, disk := e, form := none } e' :=
            ⟨halongside, by simp⟩
          exact .error _ hends
      | @ok s e e' form halongside =>
          have htracked : ∀ f, form.params.Holds f → f.path ∈ s.files := fun f hf =>
            FormData.tracked_of_extract hr hf
          have hends :
              Progress.Alongside d d' { st with scratch := s, disk := e, form := some form } e' :=
            ⟨halongside, by simpa using htracked⟩
          exact .ok form hends

theorem mirrors_withForm (h : st.Alongside d d' e')
    {use : FormData → Disk → Except BindingCause Arg}
    (huse : ∀ form e e', (∀ f, form.params.Holds f →
        e'.read? (f.path.inDirectory d'.next) = e.read? f.path) →
      use (form.inDirectory d'.next) e' = (use form e).map (Arg.inDirectory d'.next)) :
    Mirrors d d' (Arg.inDirectory d'.next) (withForm sc st use)
      (withForm sc (st.elsewhere d'.next e') use) := by
  have hread := mirrors_readForm sc h
  have hform : ∀ form, (readForm sc st).1 = .ok form → (readForm sc st).2.form = some form :=
    fun _ => form_readForm sc st
  rw [withForm, withForm]
  generalize readForm sc st = r at hread hform ⊢
  generalize readForm sc (st.elsewhere d'.next e') = r' at hread ⊢
  cases hread with
  | error cause h => exact .error cause h
  | ok form h =>
      have huse := huse form _ _ fun f hf => h.scratch.read? (h.tracked form (hform form rfl) f hf)
      dsimp only [Progress.elsewhere]
      rw [huse]
      exact h.mirrors _ _

theorem mirrors_bindForm (h : st.Alongside d d' e') (p : Parameter) (c : Converter)
    (asDocument : Bool) (key : String) :
    Mirrors d d' (Arg.inDirectory d'.next)
      (withForm sc st (p.bindForm c sc.snapshot.converters asDocument key))
      (withForm sc (st.elsewhere d'.next e')
        (p.bindForm c sc.snapshot.converters asDocument key)) :=
  mirrors_withForm sc h fun _ _ _ hfiles =>
    p.bindForm_inDirectory c sc.snapshot.converters asDocument key hfiles

theorem mirrors_bindKeyed (h : st.Alongside d d' e') (p : Parameter) (key : String)
    (c : Converter) (source : KeyedSource) :
    Mirrors d d' (Arg.inDirectory d'.next) (bindKeyed sc p key c st source)
      (bindKeyed sc p key c (st.elsewhere d'.next e') source) := by
  cases source with
  | path => exact h.mirrors_of_makes fun _ harg => .inr (Parameter.makes_of_bindPath harg)
  | query => exact h.mirrors_of_makes fun _ harg => .inr (Parameter.makes_of_convertFound harg)
  | header => exact h.mirrors_of_makes fun _ harg => .inr (Parameter.makes_of_bindHeader harg)
  | cookie =>
      exact h.mirrors_of_makes fun _ harg => (Parameter.makes_of_bindCookie harg).imp_left And.left
  | form => exact mirrors_bindForm sc h p c false key
  | formData => exact mirrors_bindForm sc h p c true key

theorem mirrors_bindContext (h : st.Alongside d d' e') (target : ValueType) :
    Mirrors d d' (Arg.inDirectory d'.next) (bindContext sc target st)
      (bindContext sc target (st.elsewhere d'.next e')) := by
  rw [bindContext.eq_def, bindContext.eq_def]
  split
  · exact h.mirrors_of_map rfl
  · exact h.mirrors_of_map rfl
  · exact (h.notes st.call true).mirrors_of_map rfl
  · split
    · exact h.mirrors_of_map rfl
    · exact h.mirrors_of_map rfl
  · split
    · exact mirrors_withForm sc h fun _ _ _ _ => rfl
    · refine h.mirrors_of_map ?_
      have hquery := FormParams.inDirectory_of_not_holds d'.next
        (FormParams.not_holds_ofUrlEncoded (Utf8.encode (sc.request.query?.getD "")))
      simp only [Except.map, Arg.inDirectory, Option.map_some, Value.inDirectory,
        Request.queryParams, hquery]
  · exact h.mirrors_of_map rfl

/-- A parameter is bound to the same on both disks, or fails with the same cause. -/
theorem mirrors_bindParameter (h : st.Alongside d d' e') (p : Parameter) :
    Mirrors d d' (p.relocate d'.next) (bindParameter sc p st)
      (bindParameter sc p (st.elsewhere d'.next e')) := by
  obtain ⟨binding, default, qualifier⟩ := p
  cases binding with
  | keyed source key c =>
      exact mirrors_bindKeyed sc h ⟨.keyed source key c, default, qualifier⟩ key c source
  | body c => exact h.mirrors_of_makes fun _ harg => .inr (Parameter.makes_of_bindBody harg)
  | context target =>
      have hbound (st : Progress σ) :
          bindParameter sc ⟨.context target, default, qualifier⟩ st = bindContext sc target st :=
        rfl
      rw [hbound, hbound]
      exact mirrors_bindContext sc h target
  | customContext target =>
      exact (h.notes _ st.streaming).mirrors_of_map (congrFun Except.map_id _)

theorem mirrors_bindParameters (h : st.Alongside d d' e') (ps : List Parameter) :
    Mirrors d d' (List.zipWith (Parameter.relocate d'.next) ps) (bindParameters sc ps st)
      (bindParameters sc ps (st.elsewhere d'.next e')) := by
  induction ps generalizing st e' with
  | nil => exact .ok [] h
  | cons p ps ih =>
      have hfirst := mirrors_bindParameter sc h p
      rw [bindParameters, bindParameters]
      generalize bindParameter sc p st = r at hfirst ⊢
      generalize bindParameter sc p (st.elsewhere d'.next e') = r' at hfirst ⊢
      cases hfirst with
      | error cause h => exact .error cause h
      | @ok st₁ e₁' arg h =>
          have hrest := ih h
          dsimp only
          generalize bindParameters sc ps st₁ = r at hrest ⊢
          generalize bindParameters sc ps (st₁.elsewhere d'.next e₁') = r' at hrest ⊢
          cases hrest with
          | error cause h => exact .error cause h
          | ok args h => exact .ok (arg :: args) h

/-! ### Calls -/

theorem mirrors_bindArguments (h : st.Alongside d d' e') :
    Mirrors d d' (sc.model.relocate d'.next) (bindArguments sc st)
      (bindArguments sc (st.elsewhere d'.next e')) := by
  have hbound := mirrors_bindParameters sc h sc.model.params
  rw [bindArguments, bindArguments]
  generalize bindParameters sc sc.model.params st = r at hbound ⊢
  generalize bindParameters sc sc.model.params (st.elsewhere d'.next e') = r' at hbound ⊢
  cases hbound with
  | error cause h => exact .error cause h
  | @ok st₁ e₁' args h =>
      dsimp only
      cases hcontext : sc.model.methodContext with
      | none =>
          have hmove : sc.model.relocate d'.next args =
              List.zipWith (Parameter.relocate d'.next) sc.model.params args := by
            rw [ResourceModel.relocate, hcontext]
            rfl
          exact hmove ▸ .ok args h
      | some directive =>
          have hmove : sc.model.relocate d'.next = id := by
            funext args
            rw [ResourceModel.relocate, hcontext]
            rfl
          refine (h.notes _ st₁.streaming).mirrors_of_map ?_
          rw [hmove, Except.map_id, id]

theorem mirrors_prepare (call : CallState σ) (h : d'.rootError = d.rootError) :
    Mirrors d d' (sc.model.relocate d'.next) (prepare sc call d) (prepare sc call d') := by
  have hbegins (call : CallState σ) : ({ call, disk := d } : Progress σ).Alongside d d' d' :=
    ⟨.unused h, by simp⟩
  rw [prepare, prepare]
  rcases injectFields sc sc.model.fields call with ⟨cause | _, call⟩
  · exact .error cause (hbegins call)
  · exact mirrors_bindArguments sc (hbegins call)

end Binding

/-- A call with its uploads in another directory. -/
def BoundCall.inDirectory {σ : Type} (n : Nat) (b : BoundCall σ) : BoundCall σ :=
  { b with
    args := if b.model.methodContext.isSome then b.args
      else ⟨List.zipWith (fun p slot => slot.map (p.relocate n)) b.model.params b.args.slots⟩
    form := b.form.map (FormParams.inDirectory n)
    scratch := b.scratch.inDirectory n }

theorem BoundCall.inDirectory_ofList {σ : Type} (n : Nat) (m : ResourceModel σ) (args : List Arg)
    (form : Option FormData) (streaming : Bool) (scratch : Scratch) :
    BoundCall.inDirectory n
        { model := m, args := .ofList args, form := form.map FormData.params, streaming, scratch } =
      { model := m, args := .ofList (m.relocate n args),
        form := (form.map (FormData.inDirectory n)).map FormData.params, streaming,
        scratch := scratch.inDirectory n } := by
  have hargs : Arguments.ofList (m.relocate n args) = if m.methodContext.isSome then .ofList args
      else ⟨List.zipWith (fun p slot => slot.map (p.relocate n)) m.params
        (Arguments.ofList args).slots⟩ := by
    rw [ResourceModel.relocate]
    split
    · rfl
    · rw [Arguments.ofList, Arguments.ofList, List.map_zipWith, List.zipWith_map_right]
      rfl
  rw [inDirectory, hargs, Option.map_map, Option.map_map]
  rfl

namespace Binding

variable {σ : Type} {d d' : Disk}

/-- Of the disk a call can tell no more than whether a directory can be made. On two disks it is
bound in the same way, but for the name of the directory, and the files that it tracks hold the
same; or binding fails with the same error. -/
theorem bind_on_disk (sc : Scope σ) (call : CallState σ) (h : d'.rootError = d.rootError) :
    (bind sc call d').1 = (bind sc call d).1.map (BoundCall.inDirectory d'.next) ∧
      (bind sc call d').2.1 = (bind sc call d).2.1 ∧
      ∀ b, (bind sc call d).1 = .ok b → ∀ path ∈ b.scratch.files, ∃ data,
        (bind sc call d).2.2.read? path = some data ∧
          (bind sc call d').2.2.read? (path.inDirectory d'.next) = some data := by
  have hprepare := mirrors_prepare sc call h
  rw [bind, bind]
  generalize prepare sc call d = r at hprepare ⊢
  generalize prepare sc call d' = r' at hprepare ⊢
  cases hprepare with
  | error cause h =>
      refine ⟨rfl, rfl, ?_⟩
      rintro b ⟨⟩
  | ok args h =>
      refine ⟨?_, rfl, ?_⟩
      · exact congrArg Except.ok (BoundCall.inDirectory_ofList _ sc.model args _ _ _).symm
      · rintro b ⟨⟩ path hpath
        obtain ⟨data, hdata⟩ := Option.isSome_iff_exists.1 (h.scratch.there hpath)
        exact ⟨data, hdata, (h.scratch.read? hpath).trans hdata⟩

end Binding

end ServiceDispatch
