import ServiceDispatch.Media.Table
import ServiceDispatch.Proofs.Media.Type
import ServiceDispatch.Proofs.Text.Cut

/-!
# Which media converter is selected

Whatever was registered, a table answers from the last registration under each name
(`Registered`): the essence of the content type comes first, then its whole top-level type, then
the wildcard, which is kept outside of the table. Names are compared without regard to letter case,
and only there do registration and selection agree: a converter is registered under its name with
parameters and blanks, but looked up without them. So it is found by its own name exactly if that
is plain (`select_own_name`).
-/

namespace ServiceDispatch.ConverterTable

/-- Registers converters one after the other. -/
def registerAll (cs : List MediaConverter) (t : ConverterTable) : ConverterTable :=
  cs.foldl (fun t c => t.register c) t

/-- The converter that was registered last under a name, in whatever letter case. -/
def lastOf? (name : String) (cs : List MediaConverter) : Option MediaConverter :=
  (cs.filter fun c => Text.sameIgnoringCase c.mediaType name).getLast?

/-- The converter that was registered last for the whole top-level type of an essence. -/
def lastOfFamily? (essence : String) (cs : List MediaConverter) : Option MediaConverter :=
  if '/' ∈ essence.toList then lastOf? (MediaType.topLevel essence ++ "/*") cs else none

theorem lastOf?_append (name : String) (cs ds : List MediaConverter) :
    lastOf? name (cs ++ ds) = (lastOf? name ds).or (lastOf? name cs) := by
  rw [lastOf?, List.filter_append, List.getLast?_append]
  rfl

theorem lastOf?_singleton (name : String) (c : MediaConverter) :
    lastOf? name [c] = if Text.lower c.mediaType = Text.lower name then some c else none := by
  by_cases h : Text.lower c.mediaType = Text.lower name
  · simp [lastOf?, Text.sameIgnoringCase, h]
  · simp [lastOf?, Text.sameIgnoringCase, h]

theorem lastOf?_lower (name : String) (cs : List MediaConverter) :
    lastOf? (Text.lower name) cs = lastOf? name cs := by
  simp only [lastOf?, Text.sameIgnoringCase, Text.lower_lower]

theorem lower_mediaType_of_lastOf? {name : String} {cs : List MediaConverter} {c : MediaConverter}
    (h : lastOf? name cs = some c) : Text.lower c.mediaType = Text.lower name :=
  (Text.sameIgnoringCase_iff _ _).1 (List.mem_filter.1 (List.mem_of_getLast? h)).2

theorem lastOf?_eq_none {name : String} {cs : List MediaConverter}
    (h : ∀ c ∈ cs, Text.lower c.mediaType ≠ Text.lower name) : lastOf? name cs = none := by
  cases hlast : lastOf? name cs with
  | none => rfl
  | some c =>
      have hmem := (List.mem_filter.1 (List.mem_of_getLast? hlast)).1
      exact absurd (lower_mediaType_of_lastOf? hlast) (h c hmem)

/-! ### What a table holds -/

/-- The table answers from what was registered last: under the names in small letters from the
entries, and for the wildcard, under which there is none, from the fallback. -/
structure Registered (cs : List MediaConverter) (t : ConverterTable) : Prop where
  entry : ∀ name, Text.lower name = name → Table.get? name t.converters =
    if name = MediaType.wildcard then none else lastOf? name cs
  fallback : t.fallback = (lastOf? MediaType.wildcard cs).getD .wildcard

theorem registered_empty : Registered [] empty :=
  ⟨fun _ _ => (ite_self none).symm, rfl⟩

theorem lower_wildcard : Text.lower MediaType.wildcard = MediaType.wildcard := by decide

theorem Registered.register {cs : List MediaConverter} {t : ConverterTable} (h : Registered cs t)
    (c : MediaConverter) : Registered (cs ++ [c]) (t.register c) := by
  rw [ConverterTable.register]
  split
  · next hc =>
    constructor
    · intro name hname
      rw [h.entry name hname]
      split
      · rfl
      · next hne =>
        rw [lastOf?_append, lastOf?_singleton, hname, if_neg (hc.trans_ne (Ne.symm hne)),
          Option.none_or]
    · rw [lastOf?_append, lastOf?_singleton, lower_wildcard, if_pos hc]
      rfl
  · next hc =>
    constructor
    · intro name hname
      rw [Table.get?_insert, h.entry name hname, lastOf?_append, lastOf?_singleton, hname]
      split
      · next heq => rw [if_neg (heq ▸ hc), Option.some_or]
      · rw [Option.none_or]
    · rw [lastOf?_append, lastOf?_singleton, lower_wildcard, if_neg hc, Option.none_or]
      exact h.fallback

theorem Registered.registerAll {cs : List MediaConverter} {t : ConverterTable}
    (h : Registered cs t) (ds : List MediaConverter) :
    Registered (cs ++ ds) (registerAll ds t) := by
  induction ds generalizing cs t with
  | nil => rwa [List.append_nil]
  | cons d ds ih =>
      rw [List.append_cons]
      exact ih (h.register d)

/-- The tables to begin with. -/
inductive Origin where
  | empty
  | standard

def Origin.table : Origin → ConverterTable
  | empty => .empty
  | standard => .standard

/-- The converters that are registered in the table to begin with. -/
def Origin.converters : Origin → List MediaConverter
  | empty => []
  | standard => [.json, .text, .form]

theorem Origin.registered : (o : Origin) → Registered o.converters o.table
  | empty => registered_empty
  | standard => registered_empty.registerAll [.json, .text, .form]

/-! ### Selection -/

theorem familyOf?_eq (essence : String) : familyOf? essence =
    if '/' ∈ essence.toList then some (MediaType.topLevel essence ++ "/*") else none := by
  rw [familyOf?, Text.cutAt?, Text.cut?_singleton]
  split
  · rfl
  · rfl

theorem selectEssence_eq_getD (essence : String) (t : ConverterTable) :
    selectEssence essence t = ((Table.get? essence t.converters).or
      ((familyOf? essence).bind fun family => Table.get? family t.converters)).getD t.fallback := by
  rw [selectEssence]
  cases Table.get? essence t.converters with
  | some c => rfl
  | none =>
      rw [Option.none_or]
      cases (familyOf? essence).bind fun family => Table.get? family t.converters with
      | some c => rfl
      | none => rfl

/-- Behind other choices it makes no difference that the table has no entry for the wildcard. -/
theorem Registered.getD_or_entry {cs : List MediaConverter} {t : ConverterTable}
    (h : Registered cs t) {name : String} (hname : Text.lower name = name)
    (choice : Option MediaConverter) :
    (choice.or (Table.get? name t.converters)).getD t.fallback =
      (choice.or (lastOf? name cs)).getD t.fallback := by
  rw [h.entry name hname]
  split
  · next hwildcard =>
    rw [h.fallback, hwildcard]
    cases choice with
    | some c => rfl
    | none => cases lastOf? MediaType.wildcard cs <;> rfl
  · rfl

theorem Registered.selectEssence_eq {cs : List MediaConverter} {t : ConverterTable}
    (h : Registered cs t) {essence : String} (hessence : Text.lower essence = essence) :
    selectEssence essence t =
      ((lastOf? essence cs).or (lastOfFamily? essence cs)).getD t.fallback := by
  have hfamily (choice : Option MediaConverter) :
      (choice.or ((familyOf? essence).bind fun f => Table.get? f t.converters)).getD t.fallback =
        (choice.or (lastOfFamily? essence cs)).getD t.fallback := by
    rw [familyOf?_eq, lastOfFamily?]
    split
    · exact h.getD_or_entry (MediaType.lower_topLevel_append hessence) choice
    · rfl
  rw [selectEssence_eq_getD, hfamily, h.entry essence hessence]
  split
  · next hwildcard =>
    -- the wildcard is of its own family
    have hself : lastOfFamily? MediaType.wildcard cs = lastOf? MediaType.wildcard cs := by
      have htop : MediaType.topLevel MediaType.wildcard ++ "/*" = MediaType.wildcard := by decide
      rw [lastOfFamily?, if_pos (by decide), htop]
    rw [hwildcard, hself]
    cases lastOf? MediaType.wildcard cs <;> rfl
  · rfl

theorem Registered.select_some_eq {cs : List MediaConverter} {t : ConverterTable}
    (h : Registered cs t) (contentType : String) : t.select (some contentType) =
      ((lastOf? (MediaType.essence contentType) cs).or
        (lastOfFamily? (MediaType.essence contentType) cs)).getD t.fallback := by
  rw [select, h.selectEssence_eq (MediaType.lower_essence contentType)]

/-- What is selected after any registrations: the converter that was registered last under the
essence of the content type, else the last one for its whole top-level type, else, and where no
content type is given, the last one for the wildcard, which in the beginning is the one that the
library has. A converter that is asked for by its media type is the first of these or none. -/
theorem select_registered (o : Origin) (calls : List MediaConverter) :
    let t := registerAll calls o.table
    let history := o.converters ++ calls
    let fallback := (lastOf? MediaType.wildcard history).getD .wildcard
    (∀ contentType, t.select (some contentType) =
        ((lastOf? (MediaType.essence contentType) history).or
          (lastOfFamily? (MediaType.essence contentType) history)).getD fallback) ∧
      t.select none = fallback ∧
      ∀ contentType, t.get? contentType =
        if MediaType.essence contentType = MediaType.wildcard then none
        else lastOf? (MediaType.essence contentType) history := by
  intro t history fallback
  have h : Registered history t := o.registered.registerAll calls
  have hfallback : t.fallback = fallback := h.fallback
  refine ⟨fun contentType => ?_, hfallback, fun contentType => ?_⟩
  · rw [h.select_some_eq, hfallback]
  · exact h.entry _ (MediaType.lower_essence contentType)

/-! ### Names that are selected -/

theorem isPlain_of_mem_lastOf? {name : String} (hname : MediaType.IsPlain name)
    {cs : List MediaConverter} : ∀ c ∈ lastOf? name cs, MediaType.IsPlain c.mediaType := by
  intro c hc
  rwa [← MediaType.isPlain_lower_iff, lower_mediaType_of_lastOf? hc, MediaType.isPlain_lower_iff]

theorem isPlain_of_mem_lastOfFamily? {essence : String} (hessence : MediaType.IsPlain essence)
    {cs : List MediaConverter} :
    ∀ c ∈ lastOfFamily? essence cs, MediaType.IsPlain c.mediaType := by
  rw [lastOfFamily?]
  split
  · exact isPlain_of_mem_lastOf? (MediaType.isPlain_topLevel_append hessence)
  · rintro c ⟨⟩

theorem isPlain_wildcard : MediaType.IsPlain MediaType.wildcard :=
  MediaType.essence_eq_lower_iff.1 (by decide +kernel)

theorem isPlain_getD {choice : Option MediaConverter} {c : MediaConverter}
    (hchoice : ∀ d ∈ choice, MediaType.IsPlain d.mediaType) (hc : MediaType.IsPlain c.mediaType) :
    MediaType.IsPlain (choice.getD c).mediaType := by
  cases choice with
  | none => exact hc
  | some d => exact hchoice d rfl

/-- A converter that is selected has a plain name. -/
theorem Registered.isPlain_select {cs : List MediaConverter} {t : ConverterTable}
    (h : Registered cs t) (contentType : Option String) :
    MediaType.IsPlain (t.select contentType).mediaType := by
  have hfallback : MediaType.IsPlain t.fallback.mediaType := by
    rw [h.fallback]
    exact isPlain_getD (isPlain_of_mem_lastOf? isPlain_wildcard) isPlain_wildcard
  cases contentType with
  | none => exact hfallback
  | some contentType =>
      have hplain := MediaType.isPlain_essence contentType
      rw [h.select_some_eq]
      refine isPlain_getD (fun c hc => ?_) hfallback
      rcases Option.or_eq_some_iff.1 hc with hc | ⟨-, hc⟩
      · exact isPlain_of_mem_lastOf? hplain c hc
      · exact isPlain_of_mem_lastOfFamily? hplain c hc

/-- A converter that is registered is selected by its own name exactly if that is plain, and then
also after more registrations under other names: registering evens out the letter case of a name
and nothing else, looking it up also drops its parameters and the blanks around it. -/
theorem select_own_name (o : Origin) (calls : List MediaConverter) (c : MediaConverter)
    {later : List MediaConverter}
    (hlater : ∀ d ∈ later, Text.sameIgnoringCase d.mediaType c.mediaType = false) :
    (registerAll later ((registerAll calls o.table).register c)).select (some c.mediaType) = c ↔
      MediaType.IsPlain c.mediaType := by
  have h := ((o.registered.registerAll calls).register c).registerAll later
  constructor
  · intro hselect
    rw [← hselect]
    exact h.isPlain_select (some c.mediaType)
  · intro hplain
    have hnone : lastOf? c.mediaType later = none := by
      refine lastOf?_eq_none fun d hd heq => ?_
      rw [← Text.sameIgnoringCase_iff, hlater d hd] at heq
      cases heq
    rw [h.select_some_eq, hplain.essence_eq, lastOf?_lower, lastOf?_append, hnone, lastOf?_append,
      lastOf?_singleton, if_pos rfl]
    rfl

/-- The converter for plain texts under another name. -/
def named (mediaType : String) : MediaConverter := { MediaConverter.text with mediaType }

theorem select_own_name_csv :
    let later := [named "text/*", named "*/*"]
    (∀ d ∈ later, Text.sameIgnoringCase d.mediaType "Text/CSV" = false) ∧
      (registerAll later ((registerAll [named "text/csv"] standard).register
        (named "Text/CSV"))).select (some "Text/CSV") = named "Text/CSV" := by
  intro later
  have hlater : ∀ d ∈ later, Text.sameIgnoringCase d.mediaType "Text/CSV" = false := by
    decide +kernel
  have hplain : MediaType.IsPlain "Text/CSV" := MediaType.essence_eq_lower_iff.1 (by decide +kernel)
  exact ⟨hlater, (select_own_name .standard [named "text/csv"] (named "Text/CSV") hlater).2 hplain⟩

/-- A converter whose name has a parameter is passed over for the wildcard, also where its own name
is given. -/
theorem select_csv_with_charset :
    let c := named "text/csv; charset=utf-8"
    let selected := (empty.register c).select (some c.mediaType)
    selected ≠ c ∧ selected.mediaType = MediaType.wildcard := by
  intro c selected
  have hwildcard : selected.mediaType = MediaType.wildcard := by decide +kernel
  refine ⟨fun h => ?_, hwildcard⟩
  rw [h] at hwildcard
  exact absurd hwildcard (by decide)

end ServiceDispatch.ConverterTable
