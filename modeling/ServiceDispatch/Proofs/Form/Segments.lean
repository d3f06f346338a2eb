import ServiceDispatch.Proofs.Form.PartLayout

/-!
# The segments of a multipart body

The delimiter cuts what follows the opening boundary into segments, of which the first that begins
with two dashes closes the body. `segments` cuts at every delimiter. The parser passes over those
that begin in front of the data of a part, because it looks for the next delimiter only behind the
empty line that ends the headers.

So the data of a part never contains the delimiter, but its header block may, and then the part
has swallowed the segments that begin there. `parts_are_segments` says that the parts are the
segments, in order and none merged with another, exactly if each part ends at the first delimiter
behind its boundary. For a boundary without a carriage return there are three ways to miss it.
-/

namespace ServiceDispatch

namespace PartText

open Multipart

/-- The text of a part, from the boundary in front of it to the delimiter that ends it. -/
def segment (t : PartText) : Bytes :=
  t.padding ++ (lineBreak ++ (t.headers ++ (lineBreak ++ lineBreak ++ t.data)))

/-- No delimiter begins in the text of the part, so it ends at the first one. -/
def EndsFirst (boundary : Bytes) (t : PartText) : Prop :=
  ∀ n < t.segment.length, ¬ delimiter boundary <+: (t.segment ++ delimiter boundary).drop n

/-- A delimiter begins in front of the data: with the line break in front of the header block,
in the header block, or with the line break in front of the data. -/
def Swallows (boundary : Bytes) (t : PartText) : Prop :=
  dashes ++ boundary <+: t.headers ∨ delimiter boundary <:+: t.headers ∨
    dashes ++ boundary <+: t.data

theorem written_eq (boundary rest : Bytes) (t : PartText) :
    t.written boundary rest = t.segment ++ (delimiter boundary ++ rest) := by
  simp [written, block, content, segment]

theorem endsFirst_iff {boundary rest : Bytes} {t : PartText} :
    t.EndsFirst boundary ↔
      Text.CutsAt (delimiter boundary) (t.written boundary rest) t.segment rest := by
  rw [written_eq, Text.cutsAt_iff]
  rfl

theorem Delimited.not_infix_data {boundary rest : Bytes} {t : PartText}
    (h : t.Delimited boundary rest) : ¬ delimiter boundary <:+: t.data :=
  h.data.not_infix_before (List.cons_ne_nil _ _)

theorem Delimited.not_dashes_prefix {boundary rest : Bytes} {t : PartText}
    (h : t.Delimited boundary rest) : ¬ dashes <+: t.segment :=
  Multipart.not_dashes_prefix h.padding _

theorem not_mem_delimiter_tail {boundary : Bytes} (hb : 13 ∉ boundary) :
    13 ∉ dashes ++ boundary ∧ 13 ∉ 10 :: (dashes ++ boundary) := by
  have hdashes : 13 ∉ dashes ++ boundary := by
    rw [List.mem_append, not_or]
    exact ⟨by decide, hb⟩
  refine ⟨hdashes, ?_⟩
  rw [List.mem_cons, not_or]
  exact ⟨by decide, hdashes⟩

/-- A line break begins a delimiter if two dashes and the boundary follow it. -/
theorem cutsAt_lineBreak_iff {boundary p s before after : Bytes} (hb : 13 ∉ boundary) :
    Text.CutsAt (delimiter boundary) (lineBreak ++ (p ++ 13 :: s)) (lineBreak ++ before) after ↔
      ¬ dashes ++ boundary <+: p ∧
        Text.CutsAt (delimiter boundary) (p ++ 13 :: s) before after := by
  have hten : ¬ delimiter boundary <+: 10 :: (p ++ 13 :: s) := by
    simp [delimiter, lineBreak, List.cons_prefix_cons]
  have hhead : delimiter boundary <+: 13 :: 10 :: (p ++ 13 :: s) ↔ dashes ++ boundary <+: p := by
    simp only [delimiter, lineBreak, List.cons_append, List.nil_append, List.cons_prefix_cons,
      true_and, Text.prefix_append_cons_iff (not_mem_delimiter_tail hb).1]
  rw [lineBreak, List.cons_append, List.cons_append, List.nil_append, List.cons_append,
    List.cons_append, List.nil_append, Text.cutsAt_cons_iff, Text.cutsAt_cons_iff,
    and_iff_right hten, hhead]

/-- Behind an empty line the data is cut off unless it begins with the boundary. -/
theorem cutsAt_emptyLine_iff {boundary data rest : Bytes} (hb : 13 ∉ boundary)
    (h : Text.CutsAt (delimiter boundary) (data ++ (delimiter boundary ++ rest)) data rest) :
    Text.CutsAt (delimiter boundary)
        (lineBreak ++ (lineBreak ++ (data ++ (delimiter boundary ++ rest))))
        (lineBreak ++ (lineBreak ++ data)) rest ↔
      ¬ dashes ++ boundary <+: data := by
  have hempty : ¬ dashes ++ boundary <+: ([] : Bytes) := by
    simp [dashes]
  calc _ ↔ ¬ dashes ++ boundary <+: [] ∧ Text.CutsAt (delimiter boundary)
          (lineBreak ++ (data ++ (delimiter boundary ++ rest))) (lineBreak ++ data) rest :=
        cutsAt_lineBreak_iff hb
    _ ↔ ¬ dashes ++ boundary <+: [] ∧ ¬ dashes ++ boundary <+: data ∧
          Text.CutsAt (delimiter boundary) (data ++ (delimiter boundary ++ rest)) data rest :=
        and_congr_right' (cutsAt_lineBreak_iff hb)
    _ ↔ ¬ dashes ++ boundary <+: data := by
        rw [and_iff_right hempty, and_iff_left h]

/-- A part whose boundary has no carriage return ends at the first delimiter unless it swallows
one. Only a line break can begin a delimiter, so the line breaks are looked at one by one. -/
theorem endsFirst_iff_not_swallows {boundary rest : Bytes} {t : PartText} (hb : 13 ∉ boundary)
    (h : t.Delimited boundary rest) : t.EndsFirst boundary ↔ ¬ t.Swallows boundary := by
  have hpadding : 13 ∉ t.padding := by
    intro hmem
    rcases h.padding 13 hmem with h | h <;> cases h
  calc t.EndsFirst boundary
      ↔ Text.CutsAt (delimiter boundary) (t.written boundary rest) t.segment rest := endsFirst_iff
    _ ↔ Text.CutsAt (delimiter boundary) (lineBreak ++ t.block boundary rest)
          (lineBreak ++ (t.headers ++ (lineBreak ++ (lineBreak ++ t.data)))) rest :=
        Text.cutsAt_append_iff_of_not_mem hpadding
    _ ↔ ¬ dashes ++ boundary <+: t.headers ∧ Text.CutsAt (delimiter boundary)
          (t.block boundary rest) (t.headers ++ (lineBreak ++ (lineBreak ++ t.data))) rest :=
        cutsAt_lineBreak_iff hb
    _ ↔ ¬ dashes ++ boundary <+: t.headers ∧ ¬ delimiter boundary <:+: t.headers ∧
          Text.CutsAt (delimiter boundary) (lineBreak ++ (lineBreak ++ t.content boundary rest))
            (lineBreak ++ (lineBreak ++ t.data)) rest :=
        and_congr_right' (Text.cutsAt_append_cons_iff (not_mem_delimiter_tail hb).2)
    _ ↔ ¬ t.Swallows boundary := by
        rw [content, cutsAt_emptyLine_iff hb h.data, Swallows, not_or, not_or]

end PartText

namespace Multipart

/-- The texts between the delimiters behind a boundary, up to the closing one. -/
def segmentsBehind (boundary rest : Bytes) : List Bytes :=
  (Text.pieces (delimiter boundary) rest).takeWhile fun s => !dashes.isPrefixOf s

/-- The texts between the delimiters of a body, from the opening boundary to the closing one. -/
def segments (boundary body : Bytes) : List Bytes :=
  match afterOpening boundary body with
  | .ok rest => segmentsBehind boundary rest
  | .error _ => []

theorem segmentsBehind_of_cutsAt {boundary rest s rest' : Bytes}
    (h : Text.CutsAt (delimiter boundary) rest s rest') :
    segmentsBehind boundary rest =
      if dashes <+: s then [] else s :: segmentsBehind boundary rest' := by
  have hlt : rest'.length < rest.length := by
    rw [h.eq_append]
    simp only [delimiter, lineBreak, List.length_append, List.length_cons]
    omega
  rw [segmentsBehind, Text.pieces_eq_cons h.cut?_eq hlt, List.takeWhile_cons]
  simp only [← List.isPrefixOf_iff_prefix]
  cases dashes.isPrefixOf s <;> rfl

theorem segmentsBehind_dashes (boundary epilogue : Bytes) :
    segmentsBehind boundary (dashes ++ epilogue) = [] := by
  cases hcut : Text.cut? (delimiter boundary) (dashes ++ epilogue) with
  | none =>
      rw [segmentsBehind, Text.pieces_eq_singleton hcut]
      rfl
  | some c =>
      -- a dash does not begin a delimiter, so the first one comes behind the dashes
      have h := Text.cutsAt_of_cut? hcut
      have hdashes : dashes <+: c.1 := by
        rcases c with ⟨- | ⟨x, - | ⟨y, s⟩⟩, rest⟩
        · have heq := h.eq_append
          cases heq
        · have heq := h.eq_append
          cases heq
        · obtain ⟨rfl, heq⟩ := List.cons.inj h.eq_append
          obtain ⟨rfl, -⟩ := List.cons.inj heq
          exact List.prefix_append dashes s
      rw [segmentsBehind_of_cutsAt h, if_pos hdashes]

/-- The parts laid out behind a boundary are the segments there exactly if none of them goes on
behind the first delimiter. -/
theorem segmentsBehind_eq_iff {boundary rest : Bytes} {ts : List PartText}
    (h : Layout boundary ts rest) :
    segmentsBehind boundary rest = ts.map PartText.segment ↔
      ∀ t ∈ ts, t.EndsFirst boundary := by
  induction h with
  | closed epilogue => simp [segmentsBehind_dashes]
  | @part t ts rest head others ih =>
      have hsome : (Text.cut? (delimiter boundary) (t.written boundary rest)).isSome := by
        rw [Option.isSome_iff_ne_none, Ne, Text.cut?_eq_none_iff, not_not, PartText.written_eq]
        exact ⟨t.segment, rest, by simp⟩
      obtain ⟨⟨s, rest'⟩, hcut⟩ := Option.isSome_iff_exists.1 hsome
      have hs := Text.cutsAt_of_cut? hcut
      have hends : t.EndsFirst boundary ↔
          Text.CutsAt (delimiter boundary) (t.written boundary rest) t.segment rest :=
        PartText.endsFirst_iff
      rw [List.map_cons, List.forall_mem_cons, ← ih, hends]
      constructor
      · intro heq
        rw [segmentsBehind_of_cutsAt hs] at heq
        split at heq
        · cases heq
        · obtain ⟨rfl, hothers⟩ := List.cons.inj heq
          have hrest : rest = rest' := by
            have heq := hs.eq_append
            rw [PartText.written_eq] at heq
            simpa using heq
          exact ⟨hrest ▸ hs, hrest ▸ hothers⟩
      · rintro ⟨hfirst, hothers⟩
        rw [segmentsBehind_of_cutsAt hfirst, if_neg head.not_dashes_prefix, hothers]

theorem Layout.delimited {boundary rest : Bytes} {ts : List PartText}
    (h : Layout boundary ts rest) : ∀ t ∈ ts, ∃ rest', t.Delimited boundary rest' := by
  induction h with
  | closed epilogue => simp
  | part head others ih => exact List.forall_mem_cons.2 ⟨⟨_, head⟩, ih⟩

end Multipart

namespace MultipartForm

open Multipart

/-- The parts of a body that is accepted stand for texts in it whose data never contains the
delimiter. They are the segments between the delimiters, from the opening boundary to the closing
one, exactly if each of them ends at the first delimiter behind its boundary; where the boundary
has no carriage return, that is if none begins in front of the data of a part. -/
theorem parts_are_segments {f : MultipartForm} {parts : List Part} (h : f.parse = .ok parts) :
    let boundary := Utf8.encode f.boundary
    ∃ ts, IsBody boundary ts f.body ∧ List.Forall₂ PartText.Describes ts parts ∧
      (∀ t ∈ ts, ¬ delimiter boundary <:+: t.data) ∧
      (segments boundary f.body = ts.map PartText.segment ↔ ∀ t ∈ ts, t.EndsFirst boundary) ∧
      (13 ∉ boundary → ∀ t ∈ ts, (t.EndsFirst boundary ↔ ¬ t.Swallows boundary)) := by
  intro boundary
  obtain ⟨ts, hbody, -, hparts⟩ := parse_eq_ok_iff.1 h
  obtain ⟨preamble, rest, hcut, hlayout⟩ := hbody
  have hsegments : segments boundary f.body = segmentsBehind boundary rest := by
    rw [segments, afterOpening_eq_ok_iff.2 ⟨preamble, hcut⟩]
  refine ⟨ts, ⟨preamble, rest, hcut, hlayout⟩, hparts, fun t ht => ?_, ?_, fun hb t ht => ?_⟩
  · obtain ⟨rest', hdelimited⟩ := hlayout.delimited t ht
    exact hdelimited.not_infix_data
  · rw [hsegments]
    exact segmentsBehind_eq_iff hlayout
  · obtain ⟨rest', hdelimited⟩ := hlayout.delimited t ht
    exact PartText.endsFirst_iff_not_swallows hb hdelimited

/-- A form of two fields, of which the second has blanks behind its boundary. -/
def paddedForm : MultipartForm where
  boundary := "b"
  limit := 2
  body :=
    Utf8.encode "--b\r\nContent-Disposition: form-data; name=\"x\"\r\n\r\n1\r\n--b \t\r\n" ++
      Utf8.encode "Content-Disposition: form-data; name=\"y\"\r\n\r\n--\r\n--b--"

theorem parts_are_segments_padded :
    let boundary := Utf8.encode paddedForm.boundary
    ∃ parts, paddedForm.parse = .ok parts ∧ parts.length = 2 ∧
      ∃ ts, IsBody boundary ts paddedForm.body ∧ List.Forall₂ PartText.Describes ts parts ∧
        (segments boundary paddedForm.body = ts.map PartText.segment ↔
          ∀ t ∈ ts, ¬ t.Swallows boundary) := by
  intro boundary
  have hparse : (paddedForm.parse.map List.length) = .ok 2 := by decide +kernel
  obtain ⟨parts, hparts, hlength⟩ := map_eq_ok_iff.1 hparse
  obtain ⟨ts, hbody, hall, -, hiff, hswallows⟩ := parts_are_segments hparts
  refine ⟨parts, hparts, hlength, ts, hbody, hall, hiff.trans ?_⟩
  exact forall₂_congr (hswallows (by decide))

/-- A field with a second one in its header block, behind a boundary that reads as a header. -/
def nestedText : PartText where
  padding := []
  headers :=
    Utf8.encode "Content-Disposition: form-data; name=\"x\"\r\n--a:b\r\n" ++
      Utf8.encode "Content-Disposition: form-data; name=\"y\""
  data := Utf8.encode "2"

def nestedForm : MultipartForm where
  boundary := "a:b"
  limit := 2
  body := Utf8.encode "--a:b" ++ nestedText.written (Utf8.encode "a:b") dashes

/-- Two segments become one part. -/
theorem parse_nestedForm :
    let boundary := Utf8.encode nestedForm.boundary
    IsBody boundary [nestedText] nestedForm.body ∧
      (∃ p, nestedForm.parse = .ok [p] ∧ nestedText.Describes p) ∧
      delimiter boundary <:+: nestedText.headers ∧
      (segments boundary nestedForm.body).length = 2 := by
  intro boundary
  have hheaders : Text.cut? (lineBreak ++ lineBreak) (nestedText.block boundary dashes) =
      some (nestedText.headers, nestedText.content boundary dashes) := by
    decide +kernel
  have hdata : Text.cut? (delimiter boundary) (nestedText.content boundary dashes) =
      some (nestedText.data, dashes) := by
    decide +kernel
  have hdelimited : nestedText.Delimited boundary dashes :=
    ⟨by rintro b ⟨⟩, by decide, Text.cutsAt_of_cut? hheaders, Text.cutsAt_of_cut? hdata⟩
  have hbody : IsBody boundary [nestedText] nestedForm.body :=
    ⟨[], _, Text.CutsAt.nil _ _, .part hdelimited (.closed [])⟩
  have hread : (headers nestedText.headers).bind (part · nestedText.data) = .ok
      { name := "y", fileName := none, contentType := MediaType.plainText,
        headers := [("Content-Disposition", "form-data; name=\"x\""), ("--a", "b"),
          ("Content-Disposition", "form-data; name=\"y\"")],
        data := Utf8.encode "2" } := by
    decide +kernel
  have hdescribes := describes_iff.2 (bind_eq_ok_iff.1 hread)
  refine ⟨hbody, ⟨_, ?_, hdescribes⟩, by decide +kernel, by decide +kernel⟩
  exact parse_eq_ok_iff.2 ⟨[nestedText], hbody, by decide, .cons hdescribes .nil⟩

end MultipartForm

end ServiceDispatch
