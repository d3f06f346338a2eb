import ServiceDispatch.Media.Type
import ServiceDispatch.Proofs.Text.Blank

/-!
# Plain media types

A media type is plain if it has no parameters and no blanks around it. Every essence is plain and
in small letters, and of a plain media type nothing but the case of its letters is lost in its
essence. Of other media types more is lost (`essence_eq_lower_iff`).
-/

namespace ServiceDispatch.MediaType

/-- Without parameters and without blanks around it. -/
structure IsPlain (mediaType : String) : Prop where
  noParameters : ';' ∉ mediaType.toList
  trimmed : Text.Trimmed mediaType.toList

theorem isPlain_lower_iff {mediaType : String} :
    IsPlain (Text.lower mediaType) ↔ IsPlain mediaType := by
  have hsemicolon := Text.mem_toList_lower_iff (c := ';') (by decide) mediaType
  constructor
  · rintro ⟨hmem, htrim⟩
    rw [Text.toList_lower, Text.trimmed_map_toLower_iff] at htrim
    exact ⟨mt hsemicolon.2 hmem, htrim⟩
  · rintro ⟨hmem, htrim⟩
    refine ⟨mt hsemicolon.1 hmem, ?_⟩
    rwa [Text.toList_lower, Text.trimmed_map_toLower_iff]

theorem isPlain_essence (contentType : String) : IsPlain (essence contentType) := by
  rw [essence, isPlain_lower_iff]
  constructor
  · rw [String.toList_ofList]
    intro hmem
    have hne := List.mem_takeWhile_imp (Text.trimChars_subset _ hmem)
    exact absurd hne (by decide)
  · rw [String.toList_ofList]
    exact Text.trimmed_trimChars _

theorem lower_essence (contentType : String) :
    Text.lower (essence contentType) = essence contentType :=
  Text.lower_lower _

theorem IsPlain.essence_eq {mediaType : String} (h : IsPlain mediaType) :
    essence mediaType = Text.lower mediaType := by
  have hall : ∀ c ∈ mediaType.toList, (c != ';') = true := fun c hc =>
    bne_iff_ne.2 fun heq => h.noParameters (heq ▸ hc)
  rw [essence, List.takeWhile_eq_self_iff.2 hall, h.trimmed.trimChars_eq, String.ofList_toList]

theorem essence_eq_lower_iff {mediaType : String} :
    essence mediaType = Text.lower mediaType ↔ IsPlain mediaType := by
  refine ⟨fun h => ?_, IsPlain.essence_eq⟩
  rw [← isPlain_lower_iff, ← h]
  exact isPlain_essence mediaType

/-! ### Top-level types -/

/-- What stands in front of the first slash. -/
def topLevel (essence : String) : String := String.ofList (essence.toList.takeWhile (· != '/'))

theorem toList_topLevel_append (essence : String) :
    (topLevel essence ++ "/*").toList = essence.toList.takeWhile (· != '/') ++ ['/', '*'] := by
  rw [topLevel, String.toList_append, String.toList_ofList]
  rfl

theorem isPlain_topLevel_append {essence : String} (h : IsPlain essence) :
    IsPlain (topLevel essence ++ "/*") := by
  constructor
  · rw [toList_topLevel_append, List.mem_append, not_or]
    exact ⟨fun hmem => h.noParameters (List.takeWhile_subset _ hmem), by decide⟩
  · rw [toList_topLevel_append]
    constructor
    · intro c hc
      cases hs : essence.toList with
      | nil =>
          rw [hs] at hc
          obtain rfl : '/' = c := Option.some.inj hc
          decide
      | cons d s =>
          rw [hs, List.takeWhile_cons] at hc
          split at hc
          · apply h.trimmed.head
            rw [hs]
            exact hc
          · obtain rfl : '/' = c := Option.some.inj hc
            decide
    · intro c hc
      rw [List.getLast?_append] at hc
      obtain rfl : '*' = c := Option.some.inj hc
      decide

theorem lower_topLevel_append {essence : String} (h : Text.lower essence = essence) :
    Text.lower (topLevel essence ++ "/*") = topLevel essence ++ "/*" := by
  rw [Text.lower_eq_self_iff, toList_topLevel_append]
  intro c hc
  rcases List.mem_append.1 hc with hc | hc
  · exact Text.lower_eq_self_iff.1 h c (List.takeWhile_subset _ hc)
  · rw [List.mem_cons, List.mem_singleton] at hc
    rcases hc with rfl | rfl
    · rfl
    · rfl

end ServiceDispatch.MediaType
