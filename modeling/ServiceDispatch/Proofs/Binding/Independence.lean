import ServiceDispatch.Proofs.Binding.Uploads

/-!
# Parameters are bound independently of each other

Binding keeps what it read of the request for the parameters that follow: the form, with its
uploads on disk, and whether the chunk stream was asked for. None of this can be seen in an
argument. A parameter is bound from the form or without a look at what was done before
(`Manner`), and the form that is kept is the one that reading it from the beginning gives. So
every parameter is bound as if it were the only one, as long as no provider runs, which may do as
it likes with the state of the call.
-/

namespace ServiceDispatch

/-- The parameter is made of the form of a request. -/
def Parameter.readsForm (p : Parameter) (r : Request) : Bool :=
  match p.binding with
  | .keyed .form _ _ => true
  | .keyed .formData _ _ => true
  | .context .formParams => r.isForm
  | _ => false

/-- The parameter is the chunk stream of the call. -/
def Parameter.streams (p : Parameter) : Bool :=
  match p.binding with
  | .context .chunkStream => true
  | _ => false

namespace Binding

variable {σ : Type} {sc : Scope σ} {d : Disk} {st : Progress σ} {p : Parameter}

/-! ### One parameter -/

/-- How a parameter is bound: from the form, or in one way whatever was done before. -/
inductive Manner (sc : Scope σ) (p : Parameter) : Prop where
  | form (use : FormData → Disk → Except BindingCause Arg) (reads : p.readsForm sc.request = true)
      (streams : p.streams = false) (bound : ∀ st, bindParameter sc p st = withForm sc st use)
  | apart (result : Except BindingCause Arg) (reads : p.readsForm sc.request = false)
      (bound : ∀ st : Progress σ,
        bindParameter sc p st = (result, { st with streaming := st.streaming || p.streams }))

theorem Manner.still (result : Except BindingCause Arg) (reads : p.readsForm sc.request = false)
    (streams : p.streams = false) (bound : ∀ st, bindParameter sc p st = (result, st)) :
    Manner sc p := by
  refine .apart result reads fun st => ?_
  rw [bound, streams, Bool.or_false]

theorem manner_context (target : ValueType) (default qualifier : Option String) :
    Manner sc ⟨.context target, default, qualifier⟩ := by
  have hbound (st : Progress σ) :
      bindParameter sc ⟨.context target, default, qualifier⟩ st = bindContext sc target st := rfl
  cases target
  case chunkStream =>
    refine .apart (.ok (some (.chunkStream none))) rfl fun st => ?_
    rw [hbound, bindContext, Parameter.streams, Bool.or_true]
  case multipart =>
    cases hform : MultipartForm.ofRequest sc.request sc.config.maxFormParts with
    | ok form => exact .still _ rfl rfl fun st => by rw [hbound, bindContext, hform]
    | error e => exact .still _ rfl rfl fun st => by rw [hbound, bindContext, hform]
  case formParams =>
    cases hform : sc.request.isForm with
    | true =>
        refine .form (fun form _ => .ok (some (.formParams form.params))) hform rfl fun st => ?_
        rw [hbound, bindContext, if_pos hform]
    | false =>
        refine .still (.ok (some (.formParams sc.request.queryParams))) hform rfl fun st => ?_
        rw [hbound, bindContext, if_neg (Bool.eq_false_iff.1 hform)]
  all_goals exact .still _ rfl rfl hbound

theorem manner_keyed (source : KeyedSource) (key : String) (c : Converter)
    (default qualifier : Option String) :
    Manner sc ⟨.keyed source key c, default, qualifier⟩ := by
  cases source
  case form => exact .form _ rfl rfl fun st => rfl
  case formData => exact .form _ rfl rfl fun st => rfl
  all_goals exact .still _ rfl rfl fun st => rfl

theorem manner_of_source_ne (hp : p.source ≠ .customContext) : Manner sc p := by
  obtain ⟨binding, default, qualifier⟩ := p
  cases binding with
  | keyed source key c => exact manner_keyed source key c default qualifier
  | body c => exact .still _ rfl rfl fun st => rfl
  | context target => exact manner_context target default qualifier
  | customContext target => exact absurd rfl hp

/-! ### The form -/

/-- The form of the request, read from the beginning, and the disk with its uploads. -/
def freshForm (sc : Scope σ) (d : Disk) : Except BindingCause (FormData × Disk) :=
  match FormData.extract sc.request sc.config.formLimits {} d with
  | (.error e, _, _) => .error (.form e)
  | (.ok form, _, d') => .ok (form, d')

/-- Whatever was bound before, the form that binding goes by is the fresh one. -/
theorem fst_withForm (h : st.Consistent sc d) (use : FormData → Disk → Except BindingCause Arg) :
    (withForm sc st use).1 = freshForm sc d >>= fun f => use f.1 f.2 := by
  rw [withForm, readForm, freshForm]
  cases h with
  | unread form scratch disk =>
      rw [form, scratch, disk]
      rcases FormData.extract sc.request sc.config.formLimits {} d with ⟨e | form, s, d'⟩
      · rfl
      · rfl
  | read form extracted =>
      rw [form, extracted]
      rfl

/-- Making something of the form leaves it read. -/
theorem form_withForm {use : FormData → Disk → Except BindingCause Arg} {arg : Arg}
    (h : (withForm sc st use).1 = .ok arg) : (withForm sc st use).2.form.isSome = true := by
  rw [withForm, readForm] at h ⊢
  cases hform : st.form with
  | some form => rw [hform, Option.isSome_some]
  | none =>
      rcases hextract : FormData.extract sc.request sc.config.formLimits st.scratch st.disk with
        ⟨e | form, s, d'⟩
      · rw [hform, hextract] at h
        cases h
      · rfl

theorem streaming_withForm (use : FormData → Disk → Except BindingCause Arg) :
    (withForm sc st use).2.streaming = st.streaming := by
  rw [withForm, readForm]
  cases st.form with
  | some form => rfl
  | none =>
      rcases FormData.extract sc.request sc.config.formLimits st.scratch st.disk with
        ⟨e | form, s, d'⟩
      · rfl
      · rfl

/-- A form that is known is the fresh one. -/
theorem Progress.Consistent.freshForm_eq {form : FormData} (h : st.Consistent sc d)
    (hform : st.form = some form) : freshForm sc d = .ok (form, st.disk) := by
  cases h with
  | unread hnone =>
      rw [hform] at hnone
      cases hnone
  | read hsome extracted =>
      cases hsome.symm.trans hform
      rw [freshForm, extracted]

/-! ### What a parameter is bound to -/

/-- What a parameter is bound to that is the first. -/
def argument (sc : Scope σ) (call : CallState σ) (d : Disk) (p : Parameter) :
    Except BindingCause Arg :=
  (bindParameter sc p { call, disk := d }).1

variable (call : CallState σ)

/-- A parameter is bound as if it were the first. -/
theorem fst_bindParameter (hp : p.source ≠ .customContext) (h : st.Consistent sc d) :
    (bindParameter sc p st).1 = argument sc call d p := by
  cases manner_of_source_ne hp with
  | form use reads streams bound =>
      rw [argument, bound, bound, fst_withForm h, fst_withForm (.unread rfl rfl rfl)]
  | apart result reads bound => rw [argument, bound, bound]

/-- All parameters are bound as if each were the first. -/
theorem fst_bindParameters {ps : List Parameter}
    (hps : ∀ p ∈ ps, p ∈ sc.model.params ∧ p.source ≠ .customContext) (h : st.Consistent sc d) :
    (bindParameters sc ps st).1 = ps.mapM (argument sc call d) := by
  induction ps generalizing st with
  | nil => rfl
  | cons p ps ih =>
      obtain ⟨⟨hmem, hp⟩, hps⟩ := List.forall_mem_cons.1 hps
      have hends := ends_bindParameter hmem h
      rw [List.mapM_cons, ← fst_bindParameter call hp h, bindParameters]
      split
      · next heq =>
        rw [heq]
        rfl
      · next arg st' heq =>
        rw [heq] at hends ⊢
        have hrest := ih hps hends.1
        split
        · next heq' =>
          rw [heq'] at hrest
          rw [← hrest]
          rfl
        · next args st'' heq' =>
          rw [heq'] at hrest
          rw [← hrest]
          rfl

/-- A parameter that a provider makes leaves the form and the chunk stream alone. -/
theorem provided_bindParameter (hp : p.source = .customContext) (st : Progress σ) :
    (bindParameter sc p st).2.form = st.form ∧
      (bindParameter sc p st).2.streaming = st.streaming ∧
      p.readsForm sc.request = false ∧ p.streams = false := by
  obtain ⟨binding, default, qualifier⟩ := p
  cases binding with
  | customContext target => exact ⟨rfl, rfl, rfl, rfl⟩
  | _ => cases hp

theorem form_bindParameter {arg : Arg} (h : (bindParameter sc p st).1 = .ok arg) :
    (bindParameter sc p st).2.form.isSome = (st.form.isSome || p.readsForm sc.request) := by
  by_cases hp : p.source = .customContext
  · obtain ⟨hform, -, hreads, -⟩ := provided_bindParameter hp st
    rw [hform, hreads, Bool.or_false]
  · cases manner_of_source_ne hp with
    | form use reads streams bound =>
        rw [bound] at h ⊢
        rw [form_withForm h, reads, Bool.or_true]
    | apart result reads bound => rw [bound, reads, Bool.or_false]

theorem streaming_bindParameter (p : Parameter) :
    (bindParameter sc p st).2.streaming = (st.streaming || p.streams) := by
  by_cases hp : p.source = .customContext
  · obtain ⟨-, hstreaming, -, hstreams⟩ := provided_bindParameter hp st
    rw [hstreaming, hstreams, Bool.or_false]
  · cases manner_of_source_ne hp with
    | form use reads streams bound => rw [bound, streaming_withForm, streams, Bool.or_false]
    | apart result reads bound => rw [bound]

/-- Once parameters are bound, the form is known if it was before or if one of them reads it, the
chunk stream is asked for if it was before or if one of them is that, and each parameter that no
provider makes is bound as if it were the first. -/
theorem of_bindParameters {ps : List Parameter} {args : List Arg} {st' : Progress σ}
    (hps : ∀ p ∈ ps, p ∈ sc.model.params) (h : st.Consistent sc d)
    (hbound : bindParameters sc ps st = (.ok args, st')) :
    st'.Consistent sc d ∧
      st'.form.isSome = (st.form.isSome || ps.any fun p => p.readsForm sc.request) ∧
      st'.streaming = (st.streaming || ps.any Parameter.streams) ∧
      List.Forall₂ (fun p arg => p.source ≠ .customContext → argument sc call d p = .ok arg)
        ps args := by
  induction ps generalizing st args with
  | nil =>
      cases hbound
      exact ⟨h, (Bool.or_false _).symm, (Bool.or_false _).symm, .nil⟩
  | cons p ps ih =>
      obtain ⟨hmem, hps⟩ := List.forall_mem_cons.1 hps
      have hends := ends_bindParameter hmem h
      rw [bindParameters] at hbound
      split at hbound
      · cases hbound
      · next arg st₁ heq =>
        have hresult := congrArg Prod.fst heq
        have hform := form_bindParameter hresult
        have hstreaming : (bindParameter sc p st).2.streaming = _ := streaming_bindParameter p
        rw [heq] at hends hform hstreaming
        split at hbound
        · cases hbound
        · next args' st₂ heq' =>
          cases hbound
          obtain ⟨hst', hform', hstreaming', hall⟩ := ih hps hends.1 heq'
          refine ⟨hst', ?_, ?_, .cons (fun hp => ?_) hall⟩
          · rw [hform', hform, List.any_cons, Bool.or_assoc]
          · rw [hstreaming', hstreaming, List.any_cons, Bool.or_assoc]
          · rw [← fst_bindParameter call hp h, hresult]

/-! ### Calls -/

variable {call' : CallState σ} {d' : Disk} {b : BoundCall σ}

/-- Behind a call that is bound stands one pass over its parameters. A directive for the whole
method may put other arguments in place of those bound, and leaves the rest. -/
theorem exists_bindParameters (hb : bind sc call d = (.ok b, call', d')) :
    ∃ call₀ args st, bindParameters sc sc.model.params { call := call₀, disk := d } =
      (.ok args, st) ∧ (sc.model.methodContext = none → b.args = .ofList args) ∧
      b.form = st.form.map FormData.params ∧ b.streaming = st.streaming ∧
      b.scratch = st.scratch ∧ d' = st.disk := by
  rw [bind] at hb
  split at hb
  · cases hb
  · next args st hprepare =>
    cases hb
    rw [prepare] at hprepare
    split at hprepare
    · cases hprepare
    · next call₀ hfields =>
      rw [bindArguments] at hprepare
      split at hprepare
      · cases hprepare
      · next bound st' hbound =>
        split at hprepare
        · cases hprepare
          exact ⟨call₀, _, _, hbound, fun _ => rfl, rfl, rfl, rfl, rfl⟩
        · next directive hdirective =>
          obtain ⟨-, rfl⟩ := Prod.mk.inj hprepare
          refine ⟨call₀, _, _, hbound, fun hnone => ?_, rfl, rfl, rfl, rfl⟩
          rw [hdirective] at hnone
          cases hnone

/-- The form of a call is the fresh one, if one of the parameters reads it. -/
theorem form_of_bind (hb : bind sc call d = (.ok b, call', d')) :
    if sc.model.params.any fun p => p.readsForm sc.request then
      ∃ form, freshForm sc d = .ok (form, d') ∧ b.form = some form.params
    else b.form = none := by
  obtain ⟨call₀, args, st, hbound, -, hform, -, -, rfl⟩ := exists_bindParameters call hb
  obtain ⟨hst, hsome, -⟩ := of_bindParameters call (fun _ hp => hp) (.unread rfl rfl rfl) hbound
  rw [hform]
  split
  · next hreads =>
    rw [hreads, Bool.or_true] at hsome
    obtain ⟨form, hform⟩ := Option.isSome_iff_exists.1 hsome
    exact ⟨form, hst.freshForm_eq hform, by rw [hform, Option.map_some]⟩
  · next hreads =>
    rw [Bool.not_eq_true] at hreads
    rw [hreads, Bool.or_false] at hsome
    rw [Option.isNone_iff_eq_none.1 (Option.isSome_eq_false_iff.1 hsome), Option.map_none]

/-- A call streams if one of the parameters is the chunk stream. -/
theorem streaming_of_bind (hb : bind sc call d = (.ok b, call', d')) :
    b.streaming = sc.model.params.any Parameter.streams := by
  obtain ⟨call₀, args, st, hbound, -, -, hstreaming, -⟩ := exists_bindParameters call hb
  obtain ⟨-, -, hstreams, -⟩ :=
    of_bindParameters call (fun _ hp => hp) (.unread rfl rfl rfl) hbound
  rw [hstreaming, hstreams, Bool.false_or]

/-- What a parameter is bound to that no provider makes. Its slot has that, unless a directive for
the whole method puts another argument there. -/
theorem exists_argument_of_bind (hb : bind sc call d = (.ok b, call', d')) {i : Nat}
    (hi : sc.model.params[i]? = some p) (hp : p.source ≠ .customContext) :
    ∃ arg, argument sc call d p = .ok arg ∧
      (sc.model.methodContext = none → b.args.get? i = some arg) := by
  obtain ⟨call₀, args, st, hbound, hslots, -⟩ := exists_bindParameters call hb
  obtain ⟨-, -, -, hall⟩ := of_bindParameters call (fun _ hp => hp) (.unread rfl rfl rfl) hbound
  obtain ⟨hlength, hargs⟩ := List.forall₂_iff_get.1 hall
  obtain ⟨hlt, rfl⟩ := List.getElem?_eq_some_iff.1 hi
  refine ⟨args[i], hargs i hlt (hlength ▸ hlt) hp, fun hcontext => ?_⟩
  rw [hslots hcontext, Arguments.get?_ofList]
  exact List.getElem?_eq_getElem (hlength ▸ hlt)

/-- What stands in the slot of a parameter that no provider makes. -/
theorem argument_of_bind (hcontext : sc.model.methodContext = none)
    (hb : bind sc call d = (.ok b, call', d')) {i : Nat} (hi : sc.model.params[i]? = some p)
    (hp : p.source ≠ .customContext) :
    ∃ arg, b.args.get? i = some arg ∧ argument sc call d p = .ok arg := by
  obtain ⟨arg, harg, hslot⟩ := exists_argument_of_bind call hb hi hp
  exact ⟨arg, hslot hcontext, harg⟩

/-! ### Methods -/

/-- The method with other parameters and nothing else to be bound. -/
def Scope.taking (sc : Scope σ) (ps : List Parameter) : Scope σ :=
  { sc with model := { sc.model with params := ps, fields := [], methodContext := none } }

/-- The method with one parameter and nothing else to be bound. -/
def Scope.alone (sc : Scope σ) (p : Parameter) : Scope σ := sc.taking [p]

/-- No provider runs when the method is bound: it has no fields, no directive for all parameters
and no parameter that a provider makes. -/
structure Scope.Plain (sc : Scope σ) : Prop where
  fields : sc.model.fields = []
  methodContext : sc.model.methodContext = none
  params : ∀ p ∈ sc.model.params, p.source ≠ .customContext

theorem Scope.plain_taking {ps : List Parameter} (hps : ∀ p ∈ ps, p.source ≠ .customContext) :
    (sc.taking ps).Plain :=
  ⟨rfl, rfl, hps⟩

theorem Scope.plain_alone (hp : p.source ≠ .customContext) : (sc.alone p).Plain :=
  Scope.plain_taking (by simpa using hp)

section Taking

variable (ps : List Parameter)

theorem provide_taking (key : ContextKey) (expected : ValueType) :
    provide (sc.taking ps) key expected call = provide sc key expected call := by
  rw [provide, provide]
  rfl

theorem withForm_taking (use : FormData → Disk → Except BindingCause Arg) :
    withForm (sc.taking ps) st use = withForm sc st use :=
  rfl

theorem bindContext_taking (target : ValueType) :
    bindContext (sc.taking ps) target st = bindContext sc target st := by
  have hrequest : (sc.taking ps).request = sc.request := rfl
  have hconfig : (sc.taking ps).config = sc.config := rfl
  rw [bindContext.eq_def, bindContext.eq_def sc]
  simp only [withForm_taking, hrequest, hconfig]

theorem bindKeyed_taking (key : String) (c : Converter) (source : KeyedSource) :
    bindKeyed (sc.taking ps) p key c st source = bindKeyed sc p key c st source := by
  cases source <;> rfl

theorem bindParameter_taking : bindParameter (sc.taking ps) p st = bindParameter sc p st := by
  simp only [bindParameter, bindKeyed_taking, bindContext_taking, provide_taking]
  rfl

theorem argument_taking : argument (sc.taking ps) call d p = argument sc call d p := by
  rw [argument, bindParameter_taking, argument]

end Taking

theorem prepare_of_plain (h : sc.Plain) :
    prepare sc call d = bindParameters sc sc.model.params { call, disk := d } := by
  rw [prepare, h.fields, injectFields]
  dsimp only
  rw [bindArguments, h.methodContext]
  rcases bindParameters sc sc.model.params { call, disk := d } with ⟨e | args, st⟩
  · rfl
  · rfl

/-- What binding gives, but for what it leaves behind. -/
theorem fst_bind_of_plain (h : sc.Plain) :
    (bind sc call d).1.map BoundCall.args =
      ((sc.model.params.mapM (argument sc call d)).mapError
        (fun cause => ⟨sc.model.name, sc.request.line, cause⟩)).map Arguments.ofList := by
  have hfst := fst_bindParameters call (fun p hp => ⟨hp, h.params p hp⟩)
    (.unread rfl rfl rfl : Progress.Consistent sc d { call, disk := d })
  rw [← hfst, bind, prepare_of_plain call h]
  rcases bindParameters sc sc.model.params { call, disk := d } with ⟨e | args, st⟩
  · rfl
  · rfl

theorem bind_ok_of_plain (h : sc.Plain) {args : List Arg}
    (hargs : sc.model.params.mapM (argument sc call d) = .ok args) :
    ∃ b, (bind sc call d).1 = .ok b ∧ b.args = .ofList args := by
  have hfst := fst_bind_of_plain (d := d) call h
  rw [hargs] at hfst
  exact map_eq_ok_iff.1 hfst

theorem bind_error_of_plain (h : sc.Plain) {cause : BindingCause}
    (hcause : sc.model.params.mapM (argument sc call d) = .error cause) :
    (bind sc call d).1 = .error ⟨sc.model.name, sc.request.line, cause⟩ := by
  have hfst := fst_bind_of_plain (d := d) call h
  rw [hcause] at hfst
  cases hbind : (bind sc call d).1 with
  | error e =>
      rw [hbind] at hfst
      cases hfst
      rfl
  | ok b =>
      rw [hbind] at hfst
      cases hfst

theorem args_of_bind (h : sc.Plain) {b : BoundCall σ} (hb : (bind sc call d).1 = .ok b) :
    ∃ args, sc.model.params.mapM (argument sc call d) = .ok args ∧ b.args = .ofList args := by
  cases hargs : sc.model.params.mapM (argument sc call d) with
  | error cause =>
      rw [bind_error_of_plain call h hargs] at hb
      cases hb
  | ok args =>
      obtain ⟨b', hb', heq⟩ := bind_ok_of_plain call h hargs
      cases hb'.symm.trans hb
      exact ⟨args, rfl, heq⟩

theorem bind_ok_iff_of_plain (h : sc.Plain) :
    (∃ b, (bind sc call d).1 = .ok b) ↔
      ∃ args, sc.model.params.mapM (argument sc call d) = .ok args := by
  constructor
  · rintro ⟨b, hb⟩
    obtain ⟨args, hargs, -⟩ := args_of_bind call h hb
    exact ⟨args, hargs⟩
  · rintro ⟨args, hargs⟩
    obtain ⟨b, hb, -⟩ := bind_ok_of_plain call h hargs
    exact ⟨b, hb⟩

theorem mapM_argument_alone :
    (sc.alone p).model.params.mapM (argument (sc.alone p) call d) =
      (argument sc call d p).map fun arg => [arg] := by
  have hp : (sc.alone p).model.params = [p] := rfl
  rw [hp, List.mapM_cons, List.mapM_nil, Scope.alone, argument_taking]
  cases argument sc call d p <;> rfl

theorem bind_alone_of_ok (hp : p.source ≠ .customContext) {arg : Arg}
    (harg : argument sc call d p = .ok arg) :
    ∃ b, (bind (sc.alone p) call d).1 = .ok b ∧ b.args = .ofList [arg] := by
  refine bind_ok_of_plain call (Scope.plain_alone hp) ?_
  rw [mapM_argument_alone, harg]
  rfl

theorem bind_alone_of_error (hp : p.source ≠ .customContext) {cause : BindingCause}
    (hcause : argument sc call d p = .error cause) :
    (bind (sc.alone p) call d).1 = .error ⟨sc.model.name, sc.request.line, cause⟩ := by
  refine bind_error_of_plain call (Scope.plain_alone hp) ?_
  rw [mapM_argument_alone, hcause]
  rfl

theorem bind_alone_ok_iff (hp : p.source ≠ .customContext) :
    (∃ b, (bind (sc.alone p) call d).1 = .ok b) ↔ ∃ arg, argument sc call d p = .ok arg := by
  cases harg : argument sc call d p with
  | ok arg =>
      obtain ⟨b, hb, -⟩ := bind_alone_of_ok call hp harg
      exact ⟨fun _ => ⟨arg, rfl⟩, fun _ => ⟨b, hb⟩⟩
  | error cause => simp [bind_alone_of_error call hp harg]

/-- A form that a parameter reads alone is the form that all of them share. -/
theorem form_of_bind_alone {call₁ : CallState σ} {d₁ : Disk} {b₁ : BoundCall σ}
    (hp : p ∈ sc.model.params) (hb : bind sc call d = (.ok b, call', d'))
    (hb₁ : bind (sc.alone p) call d = (.ok b₁, call₁, d₁))
    {form : FormParams} (hform : b₁.form = some form) : b.form = some form ∧ d' = d₁ := by
  have halone := form_of_bind call hb₁
  split at halone
  · next hreads =>
    obtain ⟨data₁, hfresh₁, hdata₁⟩ := halone
    have hreads : (sc.model.params.any fun p => p.readsForm sc.request) = true := by
      refine List.any_eq_true.2 ⟨p, hp, ?_⟩
      simpa [Scope.alone, Scope.taking] using hreads
    have hall := form_of_bind call hb
    rw [if_pos hreads] at hall
    obtain ⟨data, hfresh, hdata⟩ := hall
    cases hfresh₁.symm.trans hfresh
    exact ⟨hdata.trans (hdata₁.symm.trans hform), rfl⟩
  · rw [hform] at halone
    cases halone

/-- What a parameter is bound to among others is what it is bound to alone. -/
theorem get?_of_bind (h : sc.Plain) (hb : bind sc call d = (.ok b, call', d')) {i : Nat}
    (hi : sc.model.params[i]? = some p) :
    ∃ b₁, (bind (sc.alone p) call d).1 = .ok b₁ ∧ b₁.args.length = 1 ∧
      ∃ arg, b.args.get? i = some arg ∧ b₁.args.get? 0 = some arg := by
  have hp := h.params p (List.mem_of_getElem? hi)
  obtain ⟨arg, harg, halone⟩ := argument_of_bind call h.methodContext hb hi hp
  obtain ⟨b₁, hb₁, hslots₁⟩ := bind_alone_of_ok call hp halone
  refine ⟨b₁, hb₁, ?_, arg, harg, ?_⟩
  · rw [hslots₁, Arguments.length_ofList, List.length_singleton]
  · rw [hslots₁, Arguments.get?_ofList, List.getElem?_cons_zero]

/-- The first parameter that is not bound alone is the one that binding fails with. -/
theorem exists_of_bind_error (h : sc.Plain) {e : BindingError}
    (he : (bind sc call d).1 = .error e) :
    ∃ before p after, sc.model.params = before ++ p :: after ∧
      (∀ q ∈ before, ∃ b, (bind (sc.alone q) call d).1 = .ok b) ∧
      (bind (sc.alone p) call d).1 = .error e := by
  cases hcause : sc.model.params.mapM (argument sc call d) with
  | ok args =>
      obtain ⟨b, hb, -⟩ := bind_ok_of_plain call h hcause
      cases hb.symm.trans he
  | error cause =>
      cases (bind_error_of_plain call h hcause).symm.trans he
      obtain ⟨before, p, after, hparams, hbefore, hp⟩ := mapM_eq_error_iff.1 hcause
      have hplain {q : Parameter} (hq : q ∈ before ∨ q = p) : q.source ≠ .customContext := by
        refine h.params q ?_
        rw [hparams, List.mem_append, List.mem_cons]
        exact hq.imp_right .inl
      refine ⟨before, p, after, hparams, fun q hq => ?_, ?_⟩
      · exact (bind_alone_ok_iff call (hplain (.inl hq))).2 (hbefore q hq)
      · exact bind_alone_of_error call (hplain (.inr rfl)) hp

/-- Parameters in another order are bound to their arguments in that order. -/
theorem bind_taking_of_perm (h : sc.Plain) (hb : (bind sc call d).1 = .ok b) {qs : List Parameter}
    (hqs : qs.Perm sc.model.params) :
    ∃ b', (bind (sc.taking qs) call d).1 = .ok b' ∧
      (qs.zip b'.args.slots).Perm (sc.model.params.zip b.args.slots) := by
  obtain ⟨args, hargs, hslots⟩ := args_of_bind call h hb
  obtain ⟨args', hargs', hzip⟩ := mapM_of_perm hqs hargs
  have hfun : argument (sc.taking qs) call d = argument sc call d :=
    funext fun p => argument_taking call qs
  have hplain : (sc.taking qs).Plain :=
    Scope.plain_taking fun q hq => h.params q (hqs.subset hq)
  rw [← hfun] at hargs'
  obtain ⟨b', hb', hslots'⟩ := bind_ok_of_plain call hplain hargs'
  refine ⟨b', hb', ?_⟩
  rw [hslots, hslots', Arguments.ofList, Arguments.ofList, List.zip_map_right, List.zip_map_right]
  exact hzip.map _

/-- Without providers every parameter of a method is bound as if it were the only one: binding
succeeds if it succeeds for each alone, to the same argument, of the same form on the same disk;
and otherwise it fails as the first that fails alone. So parameters in another order are bound to
the same arguments in that order. -/
theorem bind_each_alone (h : sc.Plain) (d : Disk) :
    ((∃ b, (bind sc call d).1 = .ok b) ↔
        ∀ p ∈ sc.model.params, ∃ b, (bind (sc.alone p) call d).1 = .ok b) ∧
      (∀ b call' d', bind sc call d = (.ok b, call', d') →
        b.args.length = sc.model.params.length ∧
          ∀ i p, sc.model.params[i]? = some p →
            ∃ b₁ call₁ d₁, bind (sc.alone p) call d = (.ok b₁, call₁, d₁) ∧ b₁.args.length = 1 ∧
              (∃ arg, b.args.get? i = some arg ∧ b₁.args.get? 0 = some arg) ∧
              ∀ form, b₁.form = some form → b.form = some form ∧ d' = d₁) ∧
      (∀ e, (bind sc call d).1 = .error e →
        ∃ before p after, sc.model.params = before ++ p :: after ∧
          (∀ q ∈ before, ∃ b, (bind (sc.alone q) call d).1 = .ok b) ∧
          (bind (sc.alone p) call d).1 = .error e) ∧
      ∀ qs, qs.Perm sc.model.params → ∀ b, (bind sc call d).1 = .ok b →
        ∃ b', (bind (sc.taking qs) call d).1 = .ok b' ∧
          (qs.zip b'.args.slots).Perm (sc.model.params.zip b.args.slots) := by
  refine ⟨?_, fun b call' d' hb => ⟨?_, fun i p hi => ?_⟩, fun e he => ?_, fun qs hqs b hb => ?_⟩
  · rw [bind_ok_iff_of_plain call h, exists_mapM_eq_ok_iff]
    exact forall₂_congr fun p hp => (bind_alone_ok_iff call (h.params p hp)).symm
  · obtain ⟨args, hargs, hslots⟩ := args_of_bind call h (congrArg Prod.fst hb)
    rw [hslots, Arguments.length_ofList, (mapM_eq_ok_iff.1 hargs).length_eq]
  · obtain ⟨b₁, hb₁, hlength, harg⟩ := get?_of_bind call h hb hi
    have halone : bind (sc.alone p) call d = (.ok b₁, (bind (sc.alone p) call d).2) :=
      Prod.ext hb₁ rfl
    refine ⟨b₁, _, _, halone, hlength, harg, fun form hform => ?_⟩
    exact form_of_bind_alone call (List.mem_of_getElem? hi) hb halone hform
  · exact exists_of_bind_error call h he
  · exact bind_taking_of_perm call h hb hqs

/-- A method that takes the whole form and, of the same form, an upload. -/
def takesForm : ResourceModel Unit where
  name := "take"
  service := { id := 0, name := "forms" }
  params := [{ binding := .context .formParams }, { binding := .keyed .formData "f" .byteStream }]
  handler := fun _ _ st => (.ok .empty, st)

/-- A request for it with a form of one upload. -/
def sendsForm : Scope Unit where
  config := {}
  snapshot := .initial
  model := takesForm
  request :=
    { method := "POST", uri := "/",
      headers := [("content-type", [Utf8.encode "multipart/form-data; boundary=b"])],
      buffers :=
        [Utf8.encode "--b\r\nContent-Disposition: form-data; name=\"f\"; filename=\"a\"\r\n\r\nhi",
          Utf8.encode "\r\n--b--"] }
  captures := []

theorem bind_each_alone_form :
    sendsForm.Plain ∧ ∃ b call' d', bind sendsForm ⟨(), [], {}⟩ {} = (.ok b, call', d') ∧
      b.args.length = 2 ∧
      (∃ b₁ call₁ d₁, bind (sendsForm.alone { binding := .keyed .formData "f" .byteStream })
          ⟨(), [], {}⟩ {} = (.ok b₁, call₁, d₁) ∧
        (∃ arg, b.args.get? 1 = some arg ∧ b₁.args.get? 0 = some arg) ∧
        ∀ form, b₁.form = some form → b.form = some form ∧ d' = d₁) ∧
      ∃ b', (bind (sendsForm.taking takesForm.params.reverse) ⟨(), [], {}⟩ {}).1 = .ok b' ∧
        (takesForm.params.reverse.zip b'.args.slots).Perm (takesForm.params.zip b.args.slots) := by
  have hplain : sendsForm.Plain := ⟨rfl, rfl, by simp [sendsForm, takesForm, Parameter.source]⟩
  have hbound : (bind sendsForm ⟨(), [], {}⟩ {}).1.isOk = true := by decide +kernel
  obtain ⟨-, hok, -, hperm⟩ := bind_each_alone ⟨(), [], {}⟩ hplain {}
  rcases hbind : bind sendsForm ⟨(), [], {}⟩ {} with ⟨e | b, call', d'⟩
  · rw [hbind] at hbound
    cases hbound
  · obtain ⟨hlength, hargs⟩ := hok b call' d' hbind
    obtain ⟨b₁, call₁, d₁, hb₁, -, harg, hform⟩ := hargs 1 _ rfl
    have hreverse := hperm _ (List.reverse_perm _) b (congrArg Prod.fst hbind)
    exact ⟨hplain, b, call', d', rfl, hlength, ⟨b₁, call₁, d₁, hb₁, harg, hform⟩, hreverse⟩

end Binding

end ServiceDispatch
