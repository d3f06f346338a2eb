import ServiceDispatch.Binding.Value
import ServiceDispatch.Proofs.Value.Files

/-!
# Where bound values come from

What a keyed parameter or a parameter for the body is bound to was made by its converter, of texts,
of a body or of uploads, except that a cookie may be absent: the lemmas `makes_of_bindPath` to
`makes_of_bindForm` say so for each source. What holds of all that a converter makes thus holds of
what is bound: it has the type that the converter produces, and no files but those of the defaults
that the converter knows and, for a form field, those of the form.
-/

namespace ServiceDispatch

/-- The file can be come by through the argument. -/
def Arg.Reaches (f : FormFile) (a : Arg) : Prop := ∃ v, a = some v ∧ v.Reaches f

namespace Converter

variable {c : Converter} {v : Value}

/-- The converter makes the value of texts or of a body. -/
inductive Makes (c : Converter) (v : Value) : Prop where
  | of_texts {raw : Option (List String)} (h : c.convert raw = .ok v)
  | of_body {media : MediaConverter} {body : Bytes} (h : c.convertBody media body = .ok v)

theorem Makes.hasType (h : c.Makes v) : v.HasType c.target := by
  cases h with
  | of_texts h => exact hasType_of_convert h
  | of_body h => exact hasType_of_convertBody h

theorem Makes.supplies {f : FormFile} (h : c.Makes v) (hf : v.Reaches f) : c.Supplies f := by
  cases h with
  | of_texts h => exact supplies_of_convert h hf
  | of_body h => exact supplies_of_convertBody h hf

end Converter

namespace Parameter

variable {p : Parameter} {c : Converter} {arg : Arg}

theorem settle_eq_ok {r : Except ConvertFailure Value} (h : p.settle r = .ok arg) :
    ∃ v, r = .ok v ∧ arg = some v := by
  cases r with
  | error e => cases h
  | ok v =>
      cases h
      exact ⟨v, rfl, rfl⟩

theorem makes_of_convertTexts {raw : Option (List String)}
    (h : p.convertTexts c raw = .ok arg) : ∃ v, arg = some v ∧ c.Makes v := by
  obtain ⟨v, hv, harg⟩ := settle_eq_ok h
  exact ⟨v, harg, .of_texts hv⟩

theorem makes_of_convertFound {values : List String} (h : p.convertFound c values = .ok arg) :
    ∃ v, arg = some v ∧ c.Makes v := by
  rw [convertFound] at h
  split at h
  · exact makes_of_convertTexts h
  · exact makes_of_convertTexts h

theorem makes_of_convertAs {t : ConverterTable} {mediaType : Option String} {body : Bytes}
    (h : p.convertAs c t mediaType body = .ok arg) : ∃ v, arg = some v ∧ c.Makes v := by
  obtain ⟨v, hv, harg⟩ := settle_eq_ok h
  exact ⟨v, harg, .of_body hv⟩

theorem makes_of_bindPath {captured : Option String} (h : p.bindPath c captured = .ok arg) :
    ∃ v, arg = some v ∧ c.Makes v := by
  rw [bindPath] at h
  split at h
  · exact makes_of_convertTexts h
  · cases h

theorem makes_of_bindHeader {value : Option String} (h : p.bindHeader c value = .ok arg) :
    ∃ v, arg = some v ∧ c.Makes v :=
  makes_of_convertTexts h

/-- Only without any cookie header is a cookie absent. -/
theorem makes_of_bindCookie {key : String} {useDefault : Bool} {header : Option String}
    (h : p.bindCookie c key useDefault header = .ok arg) :
    (arg = none ∧ header = none) ∨ ∃ v, arg = some v ∧ c.Makes v := by
  rw [bindCookie.eq_def] at h
  split at h
  · exact .inr (makes_of_convertTexts h)
  · split at h
    · exact .inr (makes_of_convertTexts h)
    · cases h
      exact .inl ⟨rfl, rfl⟩

theorem makes_of_bindBody {t : ConverterTable} {otherwise : String} {r : Request}
    (h : p.bindBody c t otherwise r = .ok arg) : ∃ v, arg = some v ∧ c.Makes v :=
  makes_of_convertAs h

theorem makes_of_bindTexts {t : ConverterTable} {asDocument : Bool} {partType : Option String}
    {texts : List String} (h : p.bindTexts c t asDocument partType texts = .ok arg) :
    ∃ v, arg = some v ∧ c.Makes v := by
  rw [bindTexts] at h
  split at h
  · exact makes_of_convertAs h
  · exact makes_of_convertFound h

theorem makes_of_bindUploads {t : ConverterTable} {asDocument : Bool} {partType : Option String}
    {texts : List String} {first : FormFile} {rest : List FormFile} {d : Disk}
    (h : p.bindUploads c t asDocument partType texts first rest d = .ok arg) :
    ∃ v, arg = some v ∧ (c.Makes v ∨ c.convertFiles d (first :: rest) = some (.ok v)) := by
  rw [bindUploads] at h
  split at h
  · next hfiles =>
    obtain ⟨v, hv, harg⟩ := settle_eq_ok h
    exact ⟨v, harg, .inr (hv ▸ hfiles)⟩
  · have hmakes : ∃ v, arg = some v ∧ c.Makes v := by
      split at h
      · split at h
        · cases h
        · exact makes_of_convertAs h
      · split at h
        · cases h
        · exact makes_of_convertFound h
    obtain ⟨v, harg, hv⟩ := hmakes
    exact ⟨v, harg, .inl hv⟩

/-- A form field is bound to what its converter makes, of the uploads of the form if there are
any. -/
theorem makes_of_bindForm {t : ConverterTable} {asDocument : Bool} {key : String}
    {form : FormData} {d : Disk} (h : p.bindForm c t asDocument key form d = .ok arg) :
    ∃ v, arg = some v ∧
      (c.Makes v ∨ c.convertFiles d (FormParams.files key form.params) = some (.ok v)) := by
  rw [bindForm] at h
  split at h
  · obtain ⟨v, harg, hv⟩ := makes_of_bindTexts h
    exact ⟨v, harg, .inl hv⟩
  · next hfiles =>
    rw [hfiles]
    exact makes_of_bindUploads h

end Parameter

end ServiceDispatch
