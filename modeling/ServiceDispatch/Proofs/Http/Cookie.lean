import ServiceDispatch.Http.Cookie
import ServiceDispatch.Proofs.Http.Header
import ServiceDispatch.Proofs.Text.Blank
import ServiceDispatch.Proofs.Text.Cut

/-!
# Written cookie headers

A client writes a cookie header as segments between semicolons. A segment is a pair of a name and a
value, with spaces and tabs wherever it likes, or something that is no pair. Such a header is read
as its pairs in order (`pairs_header`): the equals sign behind the name is the first one of the
segment, and what stands around name and value are blanks, which trimming removes on each side of
that sign.
-/

namespace ServiceDispatch.Cookie

/-- Spaces and tabs. -/
def IsPadding (cs : List Char) : Prop := ∀ c ∈ cs, c = ' ' ∨ c = '\t'

/-- Printable ASCII without some marks. -/
def IsPlain (marks cs : List Char) : Prop :=
  ∀ c ∈ cs, (32 ≤ c.toNat ∧ c.toNat < 127) ∧ c ∉ marks

-- there are finitely many characters, but going through all of them is not meant
instance (cs : List Char) : Decidable (IsPadding cs) := List.decidableBAll _ cs

instance (marks cs : List Char) : Decidable (IsPlain marks cs) := List.decidableBAll _ cs

/-- A text of printable ASCII without some marks and without blanks at its ends, and the padding
around it. -/
structure Padded (marks : List Char) where
  before : List Char := []
  text : String
  after : List Char := []
  before_padding : IsPadding before := by decide
  after_padding : IsPadding after := by decide
  plain : IsPlain marks text.toList := by decide
  trimmed : Text.Trimmed text.toList := by decide

/-- What stands between two semicolons of a cookie header. -/
inductive Segment where
  | pair (name : Padded ['=', ';']) (value : Padded [';'])
  | other (text : Padded ['=', ';'])

/-! ### Padding -/

theorem IsPadding.isBlank {cs : List Char} (h : IsPadding cs) :
    ∀ c ∈ cs, Text.isBlank c = true := by
  intro c hc
  rcases h c hc with rfl | rfl <;> rfl

theorem IsPadding.isTextChar {cs : List Char} (h : IsPadding cs) :
    ∀ c ∈ cs, Header.IsTextChar c := by
  intro c hc
  rcases h c hc with rfl | rfl
  · exact .inl (by decide)
  · exact .inr rfl

namespace Padded

variable {marks : List Char} (p : Padded marks)

/-- The text with its padding. -/
def written : List Char := p.before ++ (p.text.toList ++ p.after)

theorem trimChars_written : Text.trimChars p.written = p.text.toList :=
  p.trimmed.trimChars_append p.before_padding.isBlank p.after_padding.isBlank

theorem not_mem_written {c : Char} (hc : c ∈ marks) (hblank : Text.isBlank c = false) :
    c ∉ p.written := by
  have hpadding {cs : List Char} (h : IsPadding cs) : c ∉ cs := fun hmem =>
    Bool.false_ne_true (hblank.symm.trans (h.isBlank c hmem))
  rw [written, List.mem_append, List.mem_append]
  rintro (h | h | h)
  · exact hpadding p.before_padding h
  · exact (p.plain c h).2 hc
  · exact hpadding p.after_padding h

theorem isTextChar_written : ∀ c ∈ p.written, Header.IsTextChar c := by
  intro c hc
  rw [written, List.mem_append, List.mem_append] at hc
  rcases hc with h | h | h
  · exact p.before_padding.isTextChar c h
  · exact .inl (p.plain c h).1
  · exact p.after_padding.isTextChar c h

end Padded

/-! ### Segments -/

namespace Segment

def written : Segment → List Char
  | pair name value => name.written ++ '=' :: value.written
  | other text => text.written

/-- The name and the value of a pair. -/
def pair? : Segment → Option (String × String)
  | pair name value => some (name.text, value.text)
  | other _ => none

theorem semicolon_not_mem_written (s : Segment) : ';' ∉ s.written := by
  cases s with
  | pair name value =>
      rw [written, List.mem_append, List.mem_cons]
      rintro (h | h | h)
      · exact name.not_mem_written (by decide) rfl h
      · exact absurd h (by decide)
      · exact value.not_mem_written (by decide) rfl h
  | other text => exact text.not_mem_written (by decide) rfl

theorem isTextChar_written (s : Segment) : ∀ c ∈ s.written, Header.IsTextChar c := by
  cases s with
  | pair name value =>
      intro c hc
      rw [written, List.mem_append, List.mem_cons] at hc
      rcases hc with h | rfl | h
      · exact name.isTextChar_written c h
      · exact .inl (by decide)
      · exact value.isTextChar_written c h
  | other text => exact text.isTextChar_written

/-- A pair is split at its first equals sign, wherever blanks stand. -/
theorem pair?_written (s : Segment) : Cookie.pair? s.written = s.pair? := by
  cases s with
  | pair name value =>
      have hsubset : Text.trimLeft name.written ⊆ name.written :=
        (List.dropWhile_suffix Text.isBlank).subset
      have hname : '=' ∉ Text.trimLeft name.written := fun h =>
        name.not_mem_written (by decide) rfl (hsubset h)
      have hcut := Text.CutsAt.of_head (a := '=') (t := []) List.not_mem_nil
        (p := Text.trimLeft name.written) (fun h => hname (h.subset List.mem_cons_self))
        (Text.trimRight value.written)
      have htrim : Text.trimChars (name.written ++ '=' :: value.written) =
          Text.trimLeft name.written ++ (['='] ++ Text.trimRight value.written) :=
        Text.trimChars_append_cons rfl _ _
      rw [written, Cookie.pair?, htrim, hcut.cut?_eq, Option.map_some, Text.trimChars_trimLeft,
        Text.trimChars_trimRight, name.trimChars_written, value.trimChars_written,
        String.ofList_toList, String.ofList_toList, pair?]
  | other text =>
      have hnone : '=' ∉ text.text.toList := fun h => (text.plain _ h).2 (by decide)
      rw [written, Cookie.pair?, text.trimChars_written, Text.cut?_singleton, if_neg hnone,
        Option.map_none, pair?]

end Segment

/-! ### Headers -/

/-- The value of a cookie header with the given segments. -/
def header (segments : List Segment) : String :=
  String.ofList ([';'].intercalate (segments.map Segment.written))

theorem pairs_header (segments : List Segment) :
    pairs (header segments) = segments.filterMap Segment.pair? := by
  rw [pairs, header, String.toList_ofList]
  by_cases h : segments = []
  · subst h
    rw [List.map_nil, List.intercalate_nil, Text.pieces_eq_singleton rfl]
    rfl
  · have hpieces : Text.pieces [';'] ([';'].intercalate (segments.map Segment.written)) =
        segments.map Segment.written := by
      refine (Text.pieces_eq_iff List.not_mem_nil).2 ⟨by simpa using h, rfl, ?_⟩
      rintro l hl hin
      obtain ⟨s, -, rfl⟩ := List.mem_map.1 hl
      exact s.semicolon_not_mem_written (hin.subset List.mem_cons_self)
    rw [hpieces, List.filterMap_map]
    exact List.filterMap_congr fun s _ => s.pair?_written

theorem find?_header (name : String) (segments : List Segment) :
    find? name (header segments) = (segments.filterMap Segment.pair?).lookup name := by
  rw [find?, pairs_header]
  generalize segments.filterMap Segment.pair? = pairs
  induction pairs with
  | nil => rfl
  | cons p pairs ih =>
      rw [List.find?_cons, List.lookup_cons]
      by_cases h : p.1 = name
      · rw [beq_iff_eq.2 h, beq_iff_eq.2 h.symm]
        rfl
      · rw [beq_eq_false_iff_ne.2 h, beq_eq_false_iff_ne.2 (Ne.symm h)]
        exact ih

theorem isTextChar_header (segments : List Segment) :
    ∀ c ∈ (header segments).toList, Header.IsTextChar c := by
  rw [header, String.toList_ofList]
  induction segments with
  | nil => simp
  | cons s segments ih =>
      intro c hc
      by_cases hne : segments.map Segment.written = []
      · rw [List.map_cons, hne, List.intercalate_singleton] at hc
        exact s.isTextChar_written c hc
      · rw [List.map_cons, List.intercalate_cons_of_ne_nil hne, List.mem_append, List.mem_append,
          List.mem_singleton] at hc
        rcases hc with (h | rfl) | h
        · exact s.isTextChar_written c h
        · exact .inl (by decide)
        · exact ih c h

end ServiceDispatch.Cookie
