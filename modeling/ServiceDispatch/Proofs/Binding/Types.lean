import ServiceDispatch.Binding.Call
import ServiceDispatch.Proofs.Binding.Value

/-!
# Types of bound arguments

A handler takes its arguments by the types that its parameters declare, so a value of any other
type in a slot would make every call fail. `suits_of_bindParameter` says what one parameter is bound
to, source by source, and `forall₂_of_bindParameters` what all of them are, one after the other.

A directive for the whole method replaces the arguments by what providers make. A provider may make
anything, but a value that says of itself a wrong type ends binding, and nothing at all is taken for
an absent argument.
-/

namespace ServiceDispatch

namespace Binding

variable {σ : Type}

/-- A value in the slot is of exactly the declared type. -/
def Typed (p : Parameter) (arg : Arg) : Prop := ∀ v, arg = some v → v.type = p.target

/-- What a parameter is bound to. Only the value of a provider is not looked into, and only where a
provider or a cookie header is missing is there no value. -/
structure Suits (sc : Scope σ) (p : Parameter) (arg : Arg) : Prop where
  typed : Typed p arg
  hasType : p.source ≠ .customContext → ∀ v, arg = some v → v.HasType p.target
  absent : arg = none → p.source = .customContext ∨
    p.source = .keyed .cookie ∧ sc.request.cookieHeader? = none

section Parameters

variable {sc : Scope σ} {p : Parameter} {arg : Arg}

theorem Suits.of_hasType (h : ∃ v, arg = some v ∧ v.HasType p.target) : Suits sc p arg := by
  obtain ⟨v, rfl, hv⟩ := h
  refine ⟨?_, ?_, ?_⟩
  · rintro w ⟨⟩
    exact hv.type_eq
  · rintro - w ⟨⟩
    exact hv
  · rintro ⟨⟩

theorem type_eq_of_provide {key : ContextKey} {expected : ValueType} {call call' : CallState σ}
    (h : provide sc key expected call = (.ok arg, call')) :
    ∀ v, arg = some v → v.type = expected := by
  rintro v rfl
  rw [provide] at h
  split at h
  · cases h
  · split at h
    · cases h
    · next made st hmade =>
      rw [Prod.mk.injEq, checkProduced] at h
      split at h
      · next hholds =>
        cases h.1
        exact (Arg.holds_some expected v).1 (by simpa using hholds)
      · cases h.1

theorem of_withForm {α : Type} {use : FormData → Disk → Except BindingCause α} {a : α}
    {st st' : Progress σ} (h : withForm sc st use = (.ok a, st')) :
    ∃ form disk, use form disk = .ok a := by
  rw [withForm] at h
  split at h
  · cases h
  · next form st'' _ => exact ⟨form, st''.disk, (Prod.mk.inj h).1⟩

theorem hasType_of_bindContext {target : ValueType} {st st' : Progress σ}
    (h : bindContext sc target st = (.ok arg, st')) : ∃ v, arg = some v ∧ v.HasType target := by
  rw [bindContext.eq_def] at h
  split at h
  · cases h
    exact ⟨_, rfl, .single rfl⟩
  · cases h
    exact ⟨_, rfl, .single rfl⟩
  · cases h
    exact ⟨_, rfl, .single rfl⟩
  · split at h
    · cases h
      exact ⟨_, rfl, .single rfl⟩
    · cases h
  · split at h
    · obtain ⟨form, disk, hform⟩ := of_withForm h
      cases hform
      exact ⟨_, rfl, .single rfl⟩
    · cases h
      exact ⟨_, rfl, .single rfl⟩
  · cases h

theorem hasType_of_bindForm {c : Converter} {asDocument : Bool} {key : String}
    {st st' : Progress σ}
    (h : withForm sc st (p.bindForm c sc.snapshot.converters asDocument key) = (.ok arg, st')) :
    ∃ v, arg = some v ∧ v.HasType c.target := by
  obtain ⟨form, disk, hform⟩ := of_withForm h
  obtain ⟨v, harg, hv | hv⟩ := Parameter.makes_of_bindForm hform
  · exact ⟨v, harg, hv.hasType⟩
  · exact ⟨v, harg, Converter.hasType_of_convertFiles hv⟩

theorem hasType_of_makes {c : Converter} (h : ∃ v, arg = some v ∧ c.Makes v) :
    ∃ v, arg = some v ∧ v.HasType c.target := by
  obtain ⟨v, harg, hv⟩ := h
  exact ⟨v, harg, hv.hasType⟩

/-- A keyed parameter is bound to a value of its converter's type, a cookie possibly to nothing. -/
theorem of_bindKeyed {key : String} {c : Converter} {source : KeyedSource} {st st' : Progress σ}
    (h : bindKeyed sc p key c st source = (.ok arg, st')) :
    (arg = none ∧ source = .cookie ∧ sc.request.cookieHeader? = none) ∨
      ∃ v, arg = some v ∧ v.HasType c.target := by
  cases source with
  | path => exact .inr (hasType_of_makes (Parameter.makes_of_bindPath (Prod.mk.inj h).1))
  | query => exact .inr (hasType_of_makes (Parameter.makes_of_convertFound (Prod.mk.inj h).1))
  | header => exact .inr (hasType_of_makes (Parameter.makes_of_bindHeader (Prod.mk.inj h).1))
  | cookie =>
      rcases Parameter.makes_of_bindCookie (Prod.mk.inj h).1 with ⟨harg, hheader⟩ | hmakes
      · exact .inl ⟨harg, rfl, hheader⟩
      · exact .inr (hasType_of_makes hmakes)
  | form => exact .inr (hasType_of_bindForm h)
  | formData => exact .inr (hasType_of_bindForm h)

theorem suits_of_bindParameter {st st' : Progress σ}
    (h : bindParameter sc p st = (.ok arg, st')) : Suits sc p arg := by
  rw [bindParameter] at h
  split at h
  · next source key c hbinding =>
    have htarget : p.target = c.target := by rw [Parameter.target, hbinding]
    have hsource : p.source = .keyed source := by rw [Parameter.source, hbinding]
    rcases of_bindKeyed h with ⟨rfl, rfl, hheader⟩ | hv
    · exact ⟨by rintro v ⟨⟩, by rintro - v ⟨⟩, fun _ => .inr ⟨hsource, hheader⟩⟩
    · exact .of_hasType (htarget ▸ hv)
  · next c hbinding =>
    have htarget : p.target = c.target := by rw [Parameter.target, hbinding]
    have hmakes := Parameter.makes_of_bindBody (Prod.mk.inj h).1
    exact .of_hasType (htarget ▸ hasType_of_makes hmakes)
  · next target hbinding =>
    have htarget : p.target = target := by rw [Parameter.target, hbinding]
    exact .of_hasType (htarget ▸ hasType_of_bindContext h)
  · next target hbinding =>
    have htarget : p.target = target := by rw [Parameter.target, hbinding]
    have hsource : p.source = .customContext := by rw [Parameter.source, hbinding]
    have htype := type_eq_of_provide (Prod.ext (Prod.mk.inj h).1 rfl)
    exact ⟨fun v hv => (htype v hv).trans htarget.symm, fun hne => absurd hsource hne,
      fun _ => .inl hsource⟩

/-! ### All arguments -/

theorem forall₂_of_bindParameters {ps : List Parameter} {args : List Arg} {st st' : Progress σ}
    (h : bindParameters sc ps st = (.ok args, st')) : List.Forall₂ (Suits sc) ps args := by
  induction ps generalizing args st with
  | nil =>
      cases h
      exact .nil
  | cons p ps ih =>
      rw [bindParameters] at h
      split at h
      · cases h
      · next hfirst =>
        split at h
        · cases h
        · next hothers =>
          cases h
          exact .cons (suits_of_bindParameter hfirst) (ih hothers)

theorem forall₂_of_provideAll {qualifier : Option String} {ps : List Parameter} {args : List Arg}
    {call call' : CallState σ} (h : provideAll sc qualifier ps call = (.ok args, call')) :
    List.Forall₂ Typed ps args := by
  induction ps generalizing args call with
  | nil =>
      cases h
      exact .nil
  | cons p ps ih =>
      rw [provideAll] at h
      split at h
      · cases h
      · next hfirst =>
        split at h
        · cases h
        · next hothers =>
          cases h
          exact .cons (type_eq_of_provide hfirst) (ih hothers)

theorem forall₂_of_bindArguments {args : List Arg} {st st' : Progress σ}
    (h : bindArguments sc st = (.ok args, st')) :
    List.Forall₂ (fun p arg => Typed p arg ∧ (sc.model.methodContext = none → Suits sc p arg))
      sc.model.params args := by
  rw [bindArguments] at h
  split at h
  · cases h
  · next hbound =>
    split at h
    · cases h
      exact (forall₂_of_bindParameters hbound).imp fun p arg hs => ⟨hs.typed, fun _ => hs⟩
    · next directive hdirective =>
      have hmade := forall₂_of_provideAll (Prod.ext (Prod.mk.inj h).1 rfl)
      refine hmade.imp fun p arg ht => ⟨ht, fun hnone => ?_⟩
      rw [hdirective] at hnone
      cases hnone

theorem forall₂_of_prepare {args : List Arg} {call : CallState σ} {d : Disk} {st : Progress σ}
    (h : prepare sc call d = (.ok args, st)) :
    List.Forall₂ (fun p arg => Typed p arg ∧ (sc.model.methodContext = none → Suits sc p arg))
      sc.model.params args := by
  rw [prepare] at h
  split at h
  · cases h
  · exact forall₂_of_bindArguments h

end Parameters

/-- There is one argument for each parameter, in order, which holds a value of exactly the declared
type or is absent; so it can be taken as that type. Unless the method leaves its arguments to
providers, only a parameter that is left to a provider or a cookie may be absent, the cookie where
the request has no cookie header that can be read. -/
theorem arguments_typed {sc : Scope σ} {call call' : CallState σ} {d d' : Disk} {b : BoundCall σ}
    (h : bind sc call d = (.ok b, call', d')) :
    b.args.length = sc.model.params.length ∧
      ∀ i p, sc.model.params[i]? = some p → ∃ arg, b.args.get? i = some arg ∧
        (arg.holds p.target = true ∨ arg = none) ∧ (b.args.take p.target i).1 = .ok arg ∧
        (sc.model.methodContext = none → Suits sc p arg) := by
  rw [bind] at h
  split at h
  · cases h
  · next args st hprepare =>
    cases h
    obtain ⟨hlength, hargs⟩ := List.forall₂_iff_get.1 (forall₂_of_prepare hprepare)
    refine ⟨by rw [Arguments.length_ofList, hlength], fun i p hp => ?_⟩
    obtain ⟨hi, rfl⟩ := List.getElem?_eq_some_iff.1 hp
    obtain ⟨htyped, hsuits⟩ := hargs i hi (hlength ▸ hi)
    have harg : args[i]? = some args[i] := List.getElem?_eq_getElem (hlength ▸ hi)
    have hholds : args[i].holds sc.model.params[i].target = true ∨ args[i] = none := by
      cases heq : args[i] with
      | none => exact .inr rfl
      | some v => exact .inl ((Arg.holds_some _ v).2 (htyped v heq))
    refine ⟨args[i], by rw [Arguments.get?_ofList, harg], hholds,
      Arguments.take_ofList harg ?_, hsuits⟩
    rcases hholds with hholds | hnone
    · rw [hholds, Bool.or_true]
    · rw [hnone]
      rfl

/-- A method that takes numbers from the path and a cookie. -/
def showsItem : ResourceModel Unit where
  name := "show"
  service := { id := 0, name := "items" }
  params :=
    [{ binding := .keyed .path "id" (.list (.integer .u8)) },
     { binding := .keyed .cookie "session" (.scalar .text) }]
  handler := fun _ _ st => (.ok .empty, st)

theorem arguments_typed_without_cookie :
    let sc : Scope Unit :=
      { config := {}, snapshot := .initial, model := showsItem,
        request := { method := "GET", uri := "/items/7" }, captures := [("id", "7")] }
    ∃ b call' d, bind sc ⟨(), [], {}⟩ {} = (.ok b, call', d) ∧
      b.args.slots = [some (some (.list (.integer .u8) [.integer .u8 7])), some none] ∧
      b.args.length = 2 ∧ ∃ arg, b.args.get? 1 = some arg ∧
        Suits sc { binding := .keyed .cookie "session" (.scalar .text) } arg := by
  intro sc
  obtain ⟨b, call', d, hbind, hslots⟩ : ∃ b call' d, bind sc ⟨(), [], {}⟩ {} = (.ok b, call', d) ∧
      b.args.slots = [some (some (.list (.integer .u8) [.integer .u8 7])), some none] :=
    ⟨_, _, _, rfl, rfl⟩
  obtain ⟨hlength, hargs⟩ := arguments_typed hbind
  obtain ⟨arg, harg, -, -, hsuits⟩ := hargs 1 _ rfl
  exact ⟨b, call', d, hbind, hslots, hlength, arg, harg, hsuits rfl⟩

end Binding

end ServiceDispatch
