import ServiceDispatch.Proofs.Binding.Independence

/-!
# Parameters whose value is missing

Each part of a request has its own way of lacking a value (`Scope.Lacks`), but what is bound then
is the same for all of them, the path aside: the default as if it had been sent, and without one
what the converter makes of nothing (`Parameter.Substitutes`). Only a cookie of a request without a
readable header for cookies is another case, where the argument is absent and the default counts
only if the configuration says so.
-/

namespace ServiceDispatch

/-! ### Converters -/

/-- There is something to convert, but it is no value. -/
def ConvertFailure.IsInvalid (e : ConvertFailure) : Prop := ∃ fault, e = .invalid fault

theorem failsWith_read (k : Scalar) (text : String) :
    FailsWith ConvertFailure.IsInvalid (k.read text) := by
  intro e h
  cases k <;> simp only [Scalar.read] at h <;> repeat' split at h
  all_goals
    cases h
    try exact ⟨_, rfl⟩

theorem failsWith_ofTree (s : Schema) (j : Json) :
    FailsWith ConvertFailure.IsInvalid (Converter.ofTree s j) := by
  intro e h
  rw [Converter.ofTree] at h
  split at h
  · cases h
  · cases h
    exact ⟨_, rfl⟩

/-- A single text is never missing. -/
theorem failsWith_convert (c : Converter) (text : String) :
    FailsWith ConvertFailure.IsInvalid (c.convert (some [text])) := by
  cases c with
  | scalar k => exact failsWith_read k text
  | optional k => exact (failsWith_read k text).map _
  | list k => exact (failsWith_mapM fun s _ => failsWith_read k s).map _
  | bean s => exact failsWith_ofTree s _
  | byteStream => exact failsWith_ok _
  | fileInfo | formFile | formFiles => exact failsWith_error ⟨_, rfl⟩

theorem FormParams.get_of_contains_eq_false {name : String} {form : FormParams}
    (h : form.contains name = false) : form.get name = [] := by
  rw [contains, Option.isSome_eq_false_iff, Option.isNone_iff_eq_none] at h
  rw [get, h, Option.getD_none]

namespace Parameter

/-- What is bound for a value that is missing. -/
structure Substitutes (p : Parameter) (source : KeyedSource) (key : String) (c : Converter)
    (result : Except BindingCause Arg) : Prop where
  value : ∀ text v, p.default = some text → c.convert (some [text]) = .ok v → result = .ok (some v)
  fault : ∀ text e, p.default = some text → c.convert (some [text]) = .error e →
    ∃ fault, e = .invalid fault ∧ result = .error (.conversion key c.target.name fault.message)
  path : p.default = none → source = .path → result = .error (.missingParameter key)
  optional : ∀ k, p.default = none → source ≠ .path → c = .optional k →
    result = .ok (some (.optional k.type none))
  list : ∀ k, p.default = none → source ≠ .path → c = .list k →
    result = .ok (some (.list k.type []))
  required : p.default = none → source ≠ .path → (∀ k, c ≠ .optional k) → (∀ k, c ≠ .list k) →
    result = .error (.missingParameter key)

variable {p : Parameter} {source : KeyedSource} {key : String} {c : Converter}

theorem source_ne_of_keyed (hp : p.binding = .keyed source key c) : p.source ≠ .customContext := by
  rw [Parameter.source, hp]
  rintro ⟨⟩

/-- What a source falls back to. -/
def fallback (p : Parameter) (c : Converter) : KeyedSource → Except BindingCause Arg
  | .path => p.bindPath c none
  | .query | .header | .cookie | .form | .formData => p.convertText c p.default

theorem substitutes_fallback (hp : p.binding = .keyed source key c) :
    p.Substitutes source key c (p.fallback c source) := by
  have hkey : p.displayKey = key := by rw [displayKey, key?, hp, Option.getD_some]
  have htarget : p.target = c.target := by rw [target, hp]
  have hdefault (text : String) (h : p.default = some text) :
      p.fallback c source = p.settle (c.convert (some [text])) := by
    cases source <;> simp only [fallback, bindPath, h] <;> rfl
  have hnone (hnone : p.default = none) (hsource : source ≠ .path) :
      p.fallback c source = p.settle (c.convert none) := by
    cases source
    case path => exact absurd rfl hsource
    all_goals
      rw [fallback, hnone]
      rfl
  constructor
  case value =>
    intro text v htext hv
    rw [hdefault text htext, hv]
    rfl
  case fault =>
    intro text e htext he
    obtain ⟨fault, rfl⟩ := failsWith_convert c text e he
    refine ⟨fault, rfl, ?_⟩
    rw [hdefault text htext, he, settle, cause, hkey, htarget]
  case path =>
    rintro h rfl
    rw [fallback, bindPath, h, hkey]
    rfl
  case optional =>
    rintro k h hsource rfl
    exact hnone h hsource
  case list =>
    rintro k h hsource rfl
    exact hnone h hsource
  case required =>
    intro h hsource hoptional hlist
    rw [hnone h hsource]
    cases c
    case optional k => exact absurd rfl (hoptional k)
    case list k => exact absurd rfl (hlist k)
    all_goals exact congrArg (fun key => Except.error (BindingCause.missingParameter key)) hkey

theorem bindTexts_nil (p : Parameter) (c : Converter) (t : ConverterTable) (asDocument : Bool)
    (partType : Option String) :
    p.bindTexts c t asDocument partType [] = p.convertText c p.default := by
  rw [bindTexts, List.head?_nil, ite_self]
  rfl

theorem bindForm_of_contains_eq_false (p : Parameter) (c : Converter) (t : ConverterTable)
    (asDocument : Bool) {key : String} {form : FormData}
    (h : form.params.contains key = false) (d : Disk) :
    p.bindForm c t asDocument key form d = p.convertText c p.default := by
  have hget := FormParams.get_of_contains_eq_false h
  have htexts : form.params.texts key = [] := by rw [FormParams.texts, hget, List.filterMap_nil]
  have hfiles : form.params.files key = [] := by rw [FormParams.files, hget, List.filterMap_nil]
  rw [bindForm, htexts, hfiles]
  exact p.bindTexts_nil c t asDocument _

end Parameter

/-! ### Requests that lack a value -/

theorem Cookie.find?_eq_none_iff {name header : String} :
    find? name header = none ↔ ∀ value, (name, value) ∉ pairs header := by
  rw [find?, Option.map_eq_none_iff, List.find?_eq_none]
  constructor
  · exact fun h value hmem => h _ hmem (beq_self_eq_true name)
  · rintro h ⟨name', value⟩ hmem heq
    exact h value (eq_of_beq heq ▸ hmem)

theorem FormData.extract_of_not_isForm {r : Request} (h : r.isForm = false) (limits : FormLimits)
    (s : Scratch) (d : Disk) : extract r limits s d = (.ok {}, s, d) := by
  rw [Request.isForm, Request.mediaType?] at h
  rw [extract]
  cases hcontent : r.contentType? with
  | none => rfl
  | some contentType =>
      rw [hcontent, Option.map_some] at h
      simp only [Bool.or_eq_false_iff, beq_eq_false_iff_ne, ne_eq, Option.some.injEq] at h
      exact if_pos h

namespace Binding

variable {σ : Type}

/-- The request has no value under the name. -/
def Scope.Lacks (sc : Scope σ) (d : Disk) (key : String) : KeyedSource → Prop
  | .path => Table.get? key sc.captures = none
  | .query => ∀ value, (key, value) ∉ UrlEncoded.parse (Utf8.encode (sc.request.query?.getD ""))
  | .header => ∀ value, sc.request.headers.first? key = some value →
      value = [] ∨ Header.text? value = none
  | .cookie => ∃ header, sc.request.cookieHeader? = some header ∧
      ∀ value, (key, value) ∉ Cookie.pairs header
  | .form | .formData => sc.request.isForm = false ∨
      ∃ form s d', FormData.extract sc.request sc.config.formLimits {} d = (.ok form, s, d') ∧
        form.params.contains key = false

/-- The parameter is bound so, alone and among others. -/
structure Scope.Binds (sc : Scope σ) (d : Disk) (p : Parameter)
    (result : Except BindingCause Arg) : Prop where
  alone : ∀ call, match result with
    | .ok arg => ∃ b, (bind (sc.alone p) call d).1 = .ok b ∧ b.args = .ofList [arg]
    | .error cause =>
        (bind (sc.alone p) call d).1 = .error ⟨sc.model.name, sc.request.line, cause⟩
  among : ∀ i call b call' d', sc.model.params[i]? = some p → sc.model.methodContext = none →
    bind sc call d = (.ok b, call', d') → ∃ arg, result = .ok arg ∧ b.args.get? i = some arg

variable {sc : Scope σ} {d : Disk} {p : Parameter} {source : KeyedSource} {key : String}
  {c : Converter}

theorem Scope.binds_of_argument {result : Except BindingCause Arg}
    (hp : p.source ≠ .customContext) (h : ∀ call, argument sc call d p = result) :
    sc.Binds d p result := by
  refine ⟨fun call => ?_, fun i call b call' d' hi hcontext hb => ?_⟩
  · cases result with
    | ok arg => exact bind_alone_of_ok call hp (h call)
    | error cause => exact bind_alone_of_error call hp (h call)
  · obtain ⟨arg, harg, hresult⟩ := argument_of_bind call hcontext hb hi hp
    exact ⟨arg, (h call).symm.trans hresult, harg⟩

theorem Scope.Lacks.header_eq_none (h : sc.Lacks d key .header) :
    ((sc.request.header? key).filter fun s => !s.isEmpty) = none := by
  rw [Request.header?, Headers.text?]
  cases hfirst : sc.request.headers.first? key with
  | none => rfl
  | some value =>
      rcases h value hfirst with rfl | hnone
      · rfl
      · rw [Option.bind_some, hnone, Option.filter_none]

theorem Scope.Lacks.exists_form (h : sc.Lacks d key .form) :
    ∃ form d', freshForm sc d = .ok (form, d') ∧ form.params.contains key = false := by
  rcases h with hform | ⟨form, s, d', hextract, hlacks⟩
  · refine ⟨{}, d, ?_, rfl⟩
    rw [freshForm, FormData.extract_of_not_isForm hform]
  · refine ⟨form, d', ?_, hlacks⟩
    rw [freshForm, hextract]

/-- What is missing is made up for in one way, whatever the source. -/
theorem argument_of_lacks (hp : p.binding = .keyed source key c) (h : sc.Lacks d key source)
    (call : CallState σ) : argument sc call d p = p.fallback c source := by
  have hbound (st : Progress σ) : bindParameter sc p st = bindKeyed sc p key c st source := by
    rw [bindParameter, hp]
  rw [argument, hbound]
  cases source with
  | path => rw [bindKeyed, show Table.get? key sc.captures = none from h, Parameter.fallback]
  | query =>
      have htexts : FormParams.texts key sc.request.queryParams = [] := by
        rw [Request.queryParams, FormParams.texts_ofUrlEncoded, List.map_eq_nil_iff,
          List.filter_eq_nil_iff]
        rintro ⟨name, value⟩ hmem hname
        obtain rfl := of_decide_eq_true hname
        exact h value hmem
      rw [bindKeyed, htexts]
      rfl
  | header =>
      rw [bindKeyed, Parameter.bindHeader, h.header_eq_none]
      rfl
  | cookie =>
      obtain ⟨header, hheader, hpairs⟩ := h
      rw [bindKeyed, hheader, Parameter.bindCookie, Cookie.find?_eq_none_iff.2 hpairs]
      rfl
  | form | formData =>
      obtain ⟨form, d', hfresh, hlacks⟩ := Scope.Lacks.exists_form h
      rw [bindKeyed, fst_withForm (.unread rfl rfl rfl), hfresh]
      exact p.bindForm_of_contains_eq_false c _ _ hlacks d'

theorem argument_of_cookie (hp : p.binding = .keyed .cookie key c)
    (h : sc.request.cookieHeader? = none) (call : CallState σ) :
    argument sc call d p =
      if sc.config.cookieDefaultWithoutHeader = true ∧ p.default.isSome = true then
        p.fallback c .cookie
      else .ok none := by
  rw [argument, bindParameter, hp]
  dsimp only
  rw [bindKeyed, h, Parameter.bindCookie, Parameter.fallback]
  cases sc.config.cookieDefaultWithoutHeader <;> cases p.default <;> rfl

/-- A parameter whose value the request lacks is bound to its default as if that had been sent, and
without one to what its converter makes of nothing, but for a part of the path, which must be there.
A cookie without a readable header is absent, unless its default is to be used then as well. -/
theorem bind_missing (sc : Scope σ) (d : Disk) (hp : p.binding = .keyed source key c) :
    (sc.Lacks d key source → ∃ result, p.Substitutes source key c result ∧ sc.Binds d p result) ∧
      (source = .cookie → sc.request.cookieHeader? = none →
        if sc.config.cookieDefaultWithoutHeader = true ∧ p.default.isSome = true then
          ∃ result, p.Substitutes source key c result ∧ sc.Binds d p result
        else sc.Binds d p (.ok none)) := by
  have hsource := Parameter.source_ne_of_keyed hp
  have hsubstitutes := Parameter.substitutes_fallback hp
  refine ⟨fun h => ⟨_, hsubstitutes, Scope.binds_of_argument hsource (argument_of_lacks hp h)⟩, ?_⟩
  rintro rfl hheader
  have hargument := argument_of_cookie (d := d) hp hheader
  split
  · next hdefault =>
    simp only [if_pos hdefault] at hargument
    exact ⟨_, hsubstitutes, Scope.binds_of_argument hsource hargument⟩
  · next hdefault =>
    simp only [if_neg hdefault] at hargument
    exact Scope.binds_of_argument hsource hargument

/-- A form without the field, and no header for cookies. -/
theorem bind_missing_field :
    let field : Parameter :=
      { binding := .keyed .formData "g" (.scalar .text), default := some "x" }
    let cookie : Parameter :=
      { binding := .keyed .cookie "c" (.scalar .text), default := some "x" }
    (∃ b, (bind (sendsForm.alone field) ⟨(), [], {}⟩ {}).1 = .ok b ∧
        b.args = .ofList [some (.text "x")]) ∧
      ∃ b, (bind (sendsForm.alone cookie) ⟨(), [], {}⟩ {}).1 = .ok b ∧ b.args = .ofList [none] := by
  intro field cookie
  have hextract : ∃ form s d',
      FormData.extract sendsForm.request sendsForm.config.formLimits {} {} = (.ok form, s, d') ∧
        form.params.contains "g" = false := by
    have hlacks : ((FormData.extract sendsForm.request sendsForm.config.formLimits {} {}).1.map
        fun form => form.params.contains "g") = .ok false := by decide +kernel
    obtain ⟨form, hform, hcontains⟩ := map_eq_ok_iff.1 hlacks
    exact ⟨form, _, _, Prod.ext hform rfl, hcontains⟩
  obtain ⟨result, hresult, hbinds⟩ :=
    (bind_missing (p := field) sendsForm {} rfl).1 (.inr hextract)
  obtain rfl := hresult.value "x" (.text "x") rfl rfl
  have hcookie := (bind_missing (p := cookie) sendsForm {} rfl).2 rfl (by decide)
  exact ⟨hbinds.alone _, Scope.Binds.alone hcookie _⟩

end Binding

end ServiceDispatch
