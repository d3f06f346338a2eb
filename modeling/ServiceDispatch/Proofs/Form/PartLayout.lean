import ServiceDispatch.Form.Multipart
import ServiceDispatch.Proofs.Data.Except
import ServiceDispatch.Proofs.Text.Cut
import ServiceDispatch.Proofs.Text.Utf8

/-!
# The layout of a multipart body

`IsBody boundary ts body` cuts a body into the texts of its parts: what stands behind the
opening boundary is laid out as `Layout` says, each part as padding, header block and data,
each ended at the first place where its end mark occurs. `Describes t p` says what part the
text of a part stands for, by the lines of its header block.

The parser accepts exactly the bodies that are laid out so, with no more parts than allowed,
and gives the parts that the texts stand for. The statement goes through one lemma for each
stage of `nextPart`, then one for `nextPart`, and then an induction on what is left of the
body, in which the number of parts read so far is carried along.
-/

namespace ServiceDispatch

/-- What stands between two boundaries. -/
structure PartText where
  padding : Bytes
  headers : Bytes
  data : Bytes

namespace Multipart

/-- The characters between two lines. -/
def lineEnd : List Char := ['\r', '\n']

/-- `lines` are the lines of the text that is written as `block`. -/
structure IsLines (block : Bytes) (lines : List (List Char)) : Prop where
  ne_nil : lines ≠ []
  unbroken : ∀ l ∈ lines, ¬ lineEnd <:+: l
  encode_eq : Utf8.encode (String.ofList (lineEnd.intercalate lines)) = block

/-- What stands before and behind the first colon of a line, each without surrounding blanks. -/
def headerOf (line : List Char) : String × String :=
  (String.ofList (Text.trimChars (line.takeWhile (· != ':'))),
    String.ofList (Text.trimChars (line.dropWhile (· != ':')).tail))

/-- The headers on the lines that are not empty. -/
def headersOf (lines : List (List Char)) : List (String × String) :=
  (lines.filter fun l => !l.isEmpty).map headerOf

/-- Lines that are empty or have a colon. -/
def AreHeaders (lines : List (List Char)) : Prop := ∀ l ∈ lines, l ≠ [] → ':' ∈ l

/-- Some content disposition among the headers has a parameter for the name. -/
def NamesField (hs : List (String × String)) : Prop :=
  ∃ h ∈ hs, Text.sameIgnoringCase h.1 "content-disposition" = true ∧
    ∃ e ∈ HeaderParams.read h.2, Text.sameIgnoringCase e.1 "name" = true

end Multipart

namespace PartText

open Multipart

/-- The data with the boundary that ends the part, and what follows. -/
def content (boundary rest : Bytes) (t : PartText) : Bytes := t.data ++ (delimiter boundary ++ rest)

/-- The header block and the content with an empty line between them. -/
def block (boundary rest : Bytes) (t : PartText) : Bytes :=
  t.headers ++ (lineBreak ++ lineBreak ++ t.content boundary rest)

/-- The part as it stands in a body, from the boundary in front of it on. -/
def written (boundary rest : Bytes) (t : PartText) : Bytes :=
  t.padding ++ (lineBreak ++ t.block boundary rest)

/-- The part is read as it stands: only blanks behind the boundary, a header block that does not
begin with an empty line, and header block and data ended by the first marks for that. -/
structure Delimited (boundary rest : Bytes) (t : PartText) : Prop where
  padding : ∀ b ∈ t.padding, b = 32 ∨ b = 9
  begins : ¬ lineBreak <+: t.headers
  headers : Text.CutsAt (lineBreak ++ lineBreak) (t.block boundary rest) t.headers
    (t.content boundary rest)
  data : Text.CutsAt (delimiter boundary) (t.content boundary rest) t.data rest

end PartText

namespace Multipart

/-- What may follow a boundary: parts, each with the boundary that ends it, then the dashes that
close the body, and an epilogue. -/
inductive Layout (boundary : Bytes) : List PartText → Bytes → Prop where
  | closed (epilogue : Bytes) : Layout boundary [] (dashes ++ epilogue)
  | part {t : PartText} {ts : List PartText} {rest : Bytes} (head : t.Delimited boundary rest)
      (others : Layout boundary ts rest) : Layout boundary (t :: ts) (t.written boundary rest)

/-- A body whose first boundary is followed by the given parts. -/
def IsBody (boundary : Bytes) (ts : List PartText) (body : Bytes) : Prop :=
  ∃ preamble rest, Text.CutsAt (dashes ++ boundary) body preamble rest ∧ Layout boundary ts rest

end Multipart

namespace PartText

open Multipart

/-- The header block is UTF-8, each of its lines is empty or a header, and they name the field. -/
def Readable (t : PartText) : Prop :=
  ∃ lines, IsLines t.headers lines ∧ AreHeaders lines ∧ NamesField (headersOf lines)

/-- The part that a text stands for. -/
structure Describes (t : PartText) (p : Part) : Prop where
  headers : ∃ lines, IsLines t.headers lines ∧ AreHeaders lines ∧ p.headers = headersOf lines
  name : lastValue? "name" (dispositionParams p.headers) = some p.name
  fileName : p.fileName = lastValue? "filename" (dispositionParams p.headers)
  contentType : p.contentType = contentTypeOf p.headers
  data : p.data = t.data

end PartText

namespace Multipart

/-! ### The stages of reading a part -/

theorem afterOpening_eq_ok_iff {boundary body rest : Bytes} :
    afterOpening boundary body = .ok rest ↔
      ∃ preamble, Text.CutsAt (dashes ++ boundary) body preamble rest := by
  rw [afterOpening]
  cases h : Text.cut? (dashes ++ boundary) body with
  | none =>
      refine iff_of_false (by simp) ?_
      rintro ⟨preamble, hcut⟩
      rw [hcut.cut?_eq] at h
      cases h
  | some c =>
      simp only [Except.ok.injEq]
      have hcut := Text.cutsAt_of_cut? h
      constructor
      · rintro rfl
        exact ⟨c.1, hcut⟩
      · rintro ⟨preamble, hcut'⟩
        rw [hcut'.cut?_eq] at h
        cases h
        rfl

/-- No occurrence of the opening boundary begins in a preamble that ends with a line break. -/
theorem cutsAt_preamble {boundary preamble : Bytes} (hb : 10 ∉ boundary)
    (hend : preamble = [] ∨ lineBreak <:+ preamble)
    (hfree : ¬ dashes ++ boundary <:+: preamble) (rest : Bytes) :
    Text.CutsAt (dashes ++ boundary) (preamble ++ (dashes ++ boundary ++ rest)) preamble rest := by
  rcases hend with rfl | ⟨t, rfl⟩
  · exact Text.CutsAt.nil _ rest
  · apply Text.CutsAt.of_last _ hfree
    intro c hc
    rw [List.getLast?_append_of_ne_nil _ (by decide)] at hc
    obtain rfl := Option.some.inj hc
    simpa [dashes] using hb

theorem lineBreak_not_infix_padding {padding : Bytes} (h : ∀ b ∈ padding, b = 32 ∨ b = 9) :
    ¬ lineBreak <:+: padding := by
  intro hin
  have h13 : (13 : UInt8) ∈ padding := hin.subset (by simp [lineBreak])
  rcases h 13 h13 with h | h <;> simp at h

theorem cutsAt_padding {padding : Bytes} (h : ∀ b ∈ padding, b = 32 ∨ b = 9) (more : Bytes) :
    Text.CutsAt lineBreak (padding ++ (lineBreak ++ more)) padding more :=
  Text.CutsAt.of_head (a := 13) (t := [10]) (by decide) (lineBreak_not_infix_padding h) more

theorem afterBoundaryLine_eq_ok_iff {rest more : Bytes} :
    afterBoundaryLine rest = .ok more ↔
      ∃ padding, (∀ b ∈ padding, b = 32 ∨ b = 9) ∧ rest = padding ++ (lineBreak ++ more) := by
  rw [afterBoundaryLine]
  constructor
  · intro h
    split at h
    · simp at h
    · next padding more' hcut =>
      split at h
      · next hall =>
        obtain rfl := Except.ok.inj h
        refine ⟨padding, fun b hb => ?_, (Text.cutsAt_of_cut? hcut).eq_append⟩
        simpa using List.all_eq_true.1 hall b hb
      · simp at h
  · rintro ⟨padding, hpad, rfl⟩
    have hall : (padding.all fun b => b == 32 || b == 9) = true := by
      rw [List.all_eq_true]
      exact fun b hb => by simpa using hpad b hb
    rw [(cutsAt_padding hpad more).cut?_eq]
    simp [hall]

theorem splitHeaders_of_not_prefix {block h content : Bytes} (hpre : ¬ lineBreak <+: block)
    (hcut : Text.CutsAt (lineBreak ++ lineBreak) block h content) :
    splitHeaders block = .ok (h, content) := by
  rw [← List.isPrefixOf_iff_prefix] at hpre
  rw [splitHeaders, if_neg hpre, hcut.cut?_eq]

theorem of_splitHeaders {block h content : Bytes} (hs : splitHeaders block = .ok (h, content)) :
    h = [] ∨ ¬ lineBreak <+: block ∧
      Text.CutsAt (lineBreak ++ lineBreak) block h content := by
  rw [splitHeaders] at hs
  split at hs
  · obtain ⟨rfl, -⟩ := Prod.mk.inj (Except.ok.inj hs)
    exact .inl rfl
  · next hpre =>
    rw [List.isPrefixOf_iff_prefix] at hpre
    split at hs
    · next c hcut =>
      obtain rfl := Except.ok.inj hs
      exact .inr ⟨hpre, Text.cutsAt_of_cut? hcut⟩
    · simp at hs

theorem splitData_eq_ok_iff {boundary content data rest : Bytes} :
    splitData boundary content = .ok (data, rest) ↔
      Text.CutsAt (delimiter boundary) content data rest := by
  rw [splitData, ← Text.cut?_eq_some_iff]
  cases Text.cut? (delimiter boundary) content <;> simp

/-! ### Headers -/

theorem headerLine_eq_ok_iff {line : List Char} {h : String × String} :
    headerLine line = .ok h ↔ ':' ∈ line ∧ headerOf line = h := by
  rw [headerLine, Text.cut?_singleton]
  by_cases hc : ':' ∈ line
  · simp [hc, headerOf]
  · simp [hc]

theorem mapM_headerLine_eq_ok_iff {lines : List (List Char)} {hs : List (String × String)} :
    lines.mapM headerLine = .ok hs ↔ (∀ l ∈ lines, ':' ∈ l) ∧ lines.map headerOf = hs := by
  simp only [mapM_eq_ok_iff, headerLine_eq_ok_iff]
  rw [List.forall₂_and_left, ← List.forall₂_map_left_iff, List.forall₂_eq_eq_eq]

theorem isLines_iff {block : Bytes} {lines : List (List Char)} :
    IsLines block lines ↔
      ∃ text, Utf8.decode? block = some text ∧ Text.pieces lineEnd text.toList = lines := by
  have hpieces : ∀ s : List Char, Text.pieces lineEnd s = lines ↔
      lines ≠ [] ∧ lineEnd.intercalate lines = s ∧ ∀ l ∈ lines, ¬ lineEnd <:+: l :=
    fun s => Text.pieces_eq_iff (a := '\r') (t := ['\n']) (by decide)
  constructor
  · rintro ⟨hne, hfree, henc⟩
    refine ⟨_, Utf8.decode?_eq_some_iff.2 henc, (hpieces _).2 ⟨hne, ?_, hfree⟩⟩
    rw [String.toList_ofList]
  · rintro ⟨text, hdec, hp⟩
    obtain ⟨hne, hjoin, hfree⟩ := (hpieces _).1 hp
    refine ⟨hne, hfree, ?_⟩
    rw [hjoin, String.ofList_toList]
    exact Utf8.decode?_eq_some_iff.1 hdec

theorem areHeaders_iff {lines : List (List Char)} :
    AreHeaders lines ↔ ∀ l ∈ lines.filter (fun l => !l.isEmpty), ':' ∈ l := by
  simp [AreHeaders, List.mem_filter]

theorem headers_eq_ok_iff {block : Bytes} {hs : List (String × String)} :
    headers block = .ok hs ↔
      ∃ lines, IsLines block lines ∧ AreHeaders lines ∧ hs = headersOf lines := by
  simp only [isLines_iff, areHeaders_iff]
  rw [headers]
  cases hdec : Utf8.decode? block with
  | none => simp
  | some text =>
      simp only [mapM_headerLine_eq_ok_iff, Option.some.injEq]
      constructor
      · rintro ⟨hc, rfl⟩
        exact ⟨_, ⟨text, rfl, rfl⟩, hc, rfl⟩
      · rintro ⟨lines, ⟨text, rfl, rfl⟩, hc, rfl⟩
        exact ⟨hc, rfl⟩

theorem part_eq_ok_iff {hs : List (String × String)} {data : Bytes} {p : Part} :
    part hs data = .ok p ↔
      p.headers = hs ∧ lastValue? "name" (dispositionParams hs) = some p.name ∧
        p.fileName = lastValue? "filename" (dispositionParams hs) ∧
        p.contentType = contentTypeOf hs ∧ p.data = data := by
  simp only [part]
  cases hn : lastValue? "name" (dispositionParams hs) with
  | none => simp
  | some name =>
      simp only [Except.ok.injEq, Option.some.injEq]
      constructor
      · rintro rfl
        exact ⟨rfl, rfl, rfl, rfl, rfl⟩
      · rintro ⟨rfl, rfl, hf, hc, rfl⟩
        rw [← hf, ← hc]

/-- The headers and the data of a text give a part exactly if the text stands for it. -/
theorem describes_iff {t : PartText} {p : Part} :
    t.Describes p ↔ ∃ hs, headers t.headers = .ok hs ∧ part hs t.data = .ok p := by
  simp only [headers_eq_ok_iff, part_eq_ok_iff]
  constructor
  · rintro ⟨⟨lines, hl, hc, hh⟩, hname, hfile, htype, hdata⟩
    exact ⟨p.headers, ⟨lines, hl, hc, hh⟩, rfl, hname, hfile, htype, hdata⟩
  · rintro ⟨_, ⟨lines, hl, hc, hh⟩, rfl, hname, hfile, htype, hdata⟩
    exact ⟨⟨lines, hl, hc, hh⟩, hname, hfile, htype, hdata⟩

theorem lastValue?_isSome {key : String} {entries : List (String × String)} :
    (lastValue? key entries).isSome = true ↔
      ∃ e ∈ entries, Text.sameIgnoringCase e.1 key = true := by
  simp [lastValue?, List.find?_isSome]

theorem lastValue?_name_isSome {hs : List (String × String)} :
    (lastValue? "name" (dispositionParams hs)).isSome = true ↔ NamesField hs := by
  rw [lastValue?_isSome]
  constructor
  · rintro ⟨e, he, hname⟩
    obtain ⟨h, hh, heh⟩ := List.mem_flatMap.1 he
    rw [List.mem_filter] at hh
    exact ⟨h, hh.1, hh.2, e, heh, hname⟩
  · rintro ⟨h, hh, hdisp, e, heh, hname⟩
    exact ⟨e, List.mem_flatMap.2 ⟨h, List.mem_filter.2 ⟨hh, hdisp⟩, heh⟩, hname⟩

/-- A text is readable exactly if it stands for a part. -/
theorem readable_iff {t : PartText} : t.Readable ↔ ∃ p, t.Describes p := by
  constructor
  · rintro ⟨lines, hl, hc, hn⟩
    obtain ⟨name, hname⟩ := Option.isSome_iff_exists.1 (lastValue?_name_isSome.2 hn)
    let params := dispositionParams (headersOf lines)
    exact ⟨⟨name, lastValue? "filename" params, contentTypeOf (headersOf lines), headersOf lines,
      t.data⟩, ⟨lines, hl, hc, rfl⟩, hname, rfl, rfl, rfl⟩
  · rintro ⟨p, ⟨lines, hl, hc, hh⟩, hname, -⟩
    refine ⟨lines, hl, hc, ?_⟩
    rw [← hh, ← lastValue?_name_isSome, hname]
    rfl

theorem forall_readable_iff {ts : List PartText} :
    (∀ t ∈ ts, t.Readable) ↔ ∃ parts, List.Forall₂ PartText.Describes ts parts := by
  induction ts with
  | nil => simp
  | cons t ts ih =>
      rw [List.forall_mem_cons, ih, readable_iff]
      constructor
      · rintro ⟨⟨p, hp⟩, ps, hps⟩
        exact ⟨p :: ps, .cons hp hps⟩
      · rintro ⟨parts, hparts⟩
        obtain ⟨p, ps, hp, hps, rfl⟩ := List.forall₂_cons_left_iff.1 hparts
        exact ⟨⟨p, hp⟩, ps, hps⟩

theorem headers_nil : headers [] = .ok [] := by
  have hdec : Utf8.decode? [] = some "" := Utf8.decode?_eq_some_iff.2 Utf8.encode_empty
  have hpieces : Text.pieces ['\r', '\n'] "".toList = [[]] := Text.pieces_eq_singleton rfl
  rw [headers, hdec]
  simp only [hpieces]
  rfl

/-- A part needs a header block, since only there the field can be named. -/
theorem describes_headers_ne_nil {t : PartText} {p : Part} (h : t.Describes p) :
    t.headers ≠ [] := by
  obtain ⟨hs, hh, hp⟩ := describes_iff.1 h
  intro hnil
  rw [hnil, headers_nil] at hh
  obtain rfl := Except.ok.inj hh
  simp [part, dispositionParams, lastValue?] at hp

/-! ### Reading one part -/

theorem not_dashes_prefix {padding : Bytes} (h : ∀ b ∈ padding, b = 32 ∨ b = 9) (more : Bytes) :
    ¬ dashes <+: padding ++ (lineBreak ++ more) := by
  cases padding with
  | nil => simp [dashes, lineBreak]
  | cons b padding =>
      rw [dashes, List.cons_append, List.cons_prefix_cons]
      rintro ⟨rfl, -⟩
      rcases h 45 (by simp) with h | h <;> simp at h

/-- If the header block does not begin with an empty line, then what follows the boundary line
does not either, unless there is no header block. -/
theorem not_lineBreak_prefix_block {boundary rest : Bytes} {t : PartText}
    (h : t.headers ≠ []) (hb : ¬ lineBreak <+: t.headers) :
    ¬ lineBreak <+: t.block boundary rest := by
  intro hpre
  rcases ht : t.headers with - | ⟨b, - | ⟨c, l⟩⟩
  · exact h ht
  · simp [PartText.block, ht, lineBreak] at hpre
  · simp [PartText.block, ht, lineBreak] at hpre hb
    exact hb hpre.1 hpre.2

theorem nextPart_eq_none_iff {boundary rest : Bytes} {limit parsed : Nat} :
    nextPart boundary limit parsed rest = .ok none ↔ dashes <+: rest := by
  rw [nextPart, ← List.isPrefixOf_iff_prefix]
  by_cases h : dashes.isPrefixOf rest = true
  · simp [h]
  · refine iff_of_false ?_ h
    rw [if_neg h, bind_eq_ok_iff]
    rintro ⟨more, -, hmore⟩
    split at hmore
    · simp at hmore
    · simp [bind_eq_ok_iff] at hmore

theorem nextPart_eq_some_iff {boundary rest rest' : Bytes} {limit parsed : Nat} {p : Part} :
    nextPart boundary limit parsed rest = .ok (some (p, rest')) ↔
      parsed < limit ∧
        ∃ t : PartText, rest = t.written boundary rest' ∧ t.Delimited boundary rest' ∧
          t.Describes p := by
  constructor
  · intro h
    rw [nextPart] at h
    split at h
    · simp at h
    · rw [bind_eq_ok_iff] at h
      obtain ⟨more, hline, h⟩ := h
      obtain ⟨padding, hpad, rfl⟩ := afterBoundaryLine_eq_ok_iff.1 hline
      split at h
      · simp at h
      · next hlimit =>
        simp only [bind_eq_ok_iff, Except.ok.injEq, Option.some.injEq, Prod.mk.injEq] at h
        obtain ⟨⟨block, content⟩, hsplit, hs, hhead, ⟨data, rest''⟩, hdata, q, hpart, rfl, rfl⟩ := h
        have hdesc : PartText.Describes ⟨padding, block, data⟩ q :=
          describes_iff.2 ⟨hs, hhead, hpart⟩
        rcases of_splitHeaders hsplit with rfl | ⟨hpre, hcut⟩
        · exact absurd rfl (describes_headers_ne_nil hdesc)
        · have hdcut := splitData_eq_ok_iff.1 hdata
          obtain rfl := hdcut.eq_append
          obtain rfl := hcut.eq_append
          refine ⟨Nat.not_le.1 hlimit, ⟨padding, block, data⟩, rfl, ⟨hpad, ?_, hcut, hdcut⟩, hdesc⟩
          exact fun hb => hpre (hb.trans (List.prefix_append block _))
  · rintro ⟨hlimit, t, rfl, ht, hdesc⟩
    obtain ⟨hs, hhead, hpart⟩ := describes_iff.1 hdesc
    have hdashes : ¬ dashes.isPrefixOf (t.written boundary rest') = true := by
      rw [List.isPrefixOf_iff_prefix]
      exact not_dashes_prefix ht.padding _
    have hline : afterBoundaryLine (t.written boundary rest') = .ok (t.block boundary rest') :=
      afterBoundaryLine_eq_ok_iff.2 ⟨t.padding, ht.padding, rfl⟩
    have hsplit := splitHeaders_of_not_prefix
      (not_lineBreak_prefix_block (describes_headers_ne_nil hdesc) ht.begins) ht.headers
    have hdata := splitData_eq_ok_iff.2 ht.data
    rw [nextPart, if_neg hdashes, hline]
    simp [bind, Except.bind, Nat.not_le.2 hlimit, hsplit, hhead, hdata, hpart]

end Multipart

/-! ### Reading all parts -/

namespace PartReader

open Multipart

theorem length_of_nextPart {boundary rest rest' : Bytes} {limit parsed : Nat} {p : Part}
    (h : nextPart boundary limit parsed rest = .ok (some (p, rest'))) :
    rest'.length < rest.length := by
  obtain ⟨-, t, rfl, -⟩ := nextPart_eq_some_iff.1 h
  simp only [PartText.written, PartText.block, PartText.content, delimiter, lineBreak,
    List.length_append, List.length_cons]
  omega

theorem results_finished (boundary : Bytes) (limit parsed : Nat) :
    results ⟨boundary, limit, .finished, parsed⟩ = [] := by
  rw [results]
  rfl

theorem results_after (boundary : Bytes) (limit parsed : Nat) (rest : Bytes) :
    results ⟨boundary, limit, .after rest, parsed⟩ =
      match nextPart boundary limit parsed rest with
      | .ok (some (p, rest')) => .ok p :: results ⟨boundary, limit, .after rest', parsed + 1⟩
      | .ok none => []
      | .error e => [.error e] := by
  rw [results]
  simp only [next, PartReader.rest, Except.bind]
  cases h : nextPart boundary limit parsed rest with
  | error e =>
      simp [close, ahead, results_finished]
  | ok o =>
      cases o with
      | none => rfl
      | some q =>
          have hlt := length_of_nextPart h
          simp [ahead, hlt]

theorem results_start (boundary : Bytes) (limit : Nat) (body : Bytes) :
    results ⟨boundary, limit, .start body, 0⟩ =
      match afterOpening boundary body with
      | .ok rest => results ⟨boundary, limit, .after rest, 0⟩
      | .error e => [.error e] := by
  rw [results]
  simp only [next, PartReader.rest, Except.bind]
  cases ho : afterOpening boundary body with
  | error e =>
      simp [close, ahead, results_finished]
  | ok rest =>
      obtain ⟨preamble, hcut⟩ := afterOpening_eq_ok_iff.1 ho
      have hle : rest.length ≤ body.length := by
        rw [hcut.eq_append]
        simp
        omega
      refine Eq.trans ?_ (results_after boundary limit 0 rest).symm
      cases h : nextPart boundary limit 0 rest with
      | error e =>
          simp [h, close, ahead, results_finished]
      | ok o =>
          cases o with
          | none => simp [h]
          | some q =>
              have hlt := (length_of_nextPart h).trans_le hle
              simp [h, ahead, hlt]

/-- What repeated reading gives behind a boundary, `parsed` parts having been read: all parts
exactly if they are laid out there and are not too many. -/
theorem mapM_results_after {boundary rest : Bytes} {limit parsed : Nat} (hle : parsed ≤ limit)
    {parts : List Part} :
    (results ⟨boundary, limit, .after rest, parsed⟩).mapM id = .ok parts ↔
      ∃ ts, Layout boundary ts rest ∧ parsed + ts.length ≤ limit ∧
        List.Forall₂ PartText.Describes ts parts := by
  -- what is left gets shorter with each part, while the number of parts read grows
  induction hn : rest.length using Nat.strong_induction_on generalizing rest parsed parts with
  | _ n ih =>
    rw [results_after, mapM_eq_ok_iff]
    constructor
    · intro h
      split at h
      · next p rest' hnext =>
        obtain ⟨hlt, t, rfl, ht, hdesc⟩ := nextPart_eq_some_iff.1 hnext
        obtain ⟨q, parts, hq, hmore, rfl⟩ := List.forall₂_cons_left_iff.1 h
        obtain rfl : p = q := Except.ok.inj hq
        obtain ⟨ts, hts, hlen, hall⟩ :=
          (ih _ (hn ▸ length_of_nextPart hnext) hlt rfl).1 (mapM_eq_ok_iff.2 hmore)
        refine ⟨t :: ts, .part ht hts, ?_, .cons hdesc hall⟩
        rw [List.length_cons]
        omega
      · next hnext =>
        obtain ⟨epilogue, rfl⟩ := nextPart_eq_none_iff.1 hnext
        rw [List.forall₂_nil_left_iff] at h
        subst h
        exact ⟨[], .closed epilogue, hle, .nil⟩
      · obtain ⟨q, parts, hq, -, -⟩ := List.forall₂_cons_left_iff.1 h
        cases hq
    · rintro ⟨ts, hts, hlen, hall⟩
      cases hts with
      | closed epilogue =>
          rw [nextPart_eq_none_iff.2 (List.prefix_append dashes epilogue)]
          rw [List.forall₂_nil_left_iff] at hall ⊢
          exact hall
      | @part t ts rest' ht hts =>
          obtain ⟨p, parts, hdesc, hmore, rfl⟩ := List.forall₂_cons_left_iff.1 hall
          rw [List.length_cons] at hlen
          have hnext : nextPart boundary limit parsed (t.written boundary rest') =
              .ok (some (p, rest')) :=
            nextPart_eq_some_iff.2 ⟨by omega, t, rfl, ht, hdesc⟩
          rw [hnext]
          refine .cons rfl (mapM_eq_ok_iff.1 ?_)
          exact (ih _ (hn ▸ length_of_nextPart hnext) (by omega) rfl).2
            ⟨ts, hts, by omega, hmore⟩

end PartReader

namespace MultipartForm

open Multipart

/-- A form is parsed to parts exactly if its body is laid out as texts that stand for them, and
these are not too many. -/
theorem parse_eq_ok_iff {f : MultipartForm} {parts : List Part} :
    f.parse = .ok parts ↔
      ∃ ts, IsBody (Utf8.encode f.boundary) ts f.body ∧ ts.length ≤ f.limit ∧
        List.Forall₂ PartText.Describes ts parts := by
  rw [parse, results, reader, PartReader.results_start]
  cases ho : afterOpening (Utf8.encode f.boundary) f.body with
  | error e =>
      refine iff_of_false (by simp) ?_
      rintro ⟨ts, ⟨preamble, rest, hcut, -⟩, -⟩
      rw [afterOpening_eq_ok_iff.2 ⟨preamble, hcut⟩] at ho
      cases ho
  | ok rest =>
      obtain ⟨preamble, hcut⟩ := afterOpening_eq_ok_iff.1 ho
      simp only [PartReader.mapM_results_after (Nat.zero_le f.limit), Nat.zero_add]
      constructor
      · rintro ⟨ts, hts, hlen, hall⟩
        exact ⟨ts, ⟨preamble, rest, hcut, hts⟩, hlen, hall⟩
      · rintro ⟨ts, ⟨preamble', rest', hcut', hts⟩, hlen, hall⟩
        rw [afterOpening_eq_ok_iff.2 ⟨preamble', hcut'⟩] at ho
        obtain rfl := Except.ok.inj ho
        exact ⟨ts, hts, hlen, hall⟩

/-- The parser accepts exactly the bodies that are laid out as readable parts, no more than are
allowed, and every such layout gives one part for each text, in order, with the headers that
stand on the text's lines and with the text's data. -/
theorem accepts_iff_layout (f : MultipartForm) :
    ((∃ parts, f.parse = .ok parts) ↔
        ∃ ts, IsBody (Utf8.encode f.boundary) ts f.body ∧ ts.length ≤ f.limit ∧
          ∀ t ∈ ts, t.Readable) ∧
      ∀ ts, IsBody (Utf8.encode f.boundary) ts f.body → ts.length ≤ f.limit →
        (∀ t ∈ ts, t.Readable) →
          ∃ parts, f.parse = .ok parts ∧ List.Forall₂ PartText.Describes ts parts := by
  constructor
  · constructor
    · rintro ⟨parts, hparts⟩
      obtain ⟨ts, hbody, hlen, hall⟩ := parse_eq_ok_iff.1 hparts
      exact ⟨ts, hbody, hlen, forall_readable_iff.2 ⟨parts, hall⟩⟩
    · rintro ⟨ts, hbody, hlen, hts⟩
      obtain ⟨parts, hall⟩ := forall_readable_iff.1 hts
      exact ⟨parts, parse_eq_ok_iff.2 ⟨ts, hbody, hlen, hall⟩⟩
  · intro ts hbody hlen hts
    obtain ⟨parts, hall⟩ := forall_readable_iff.1 hts
    exact ⟨parts, parse_eq_ok_iff.2 ⟨ts, hbody, hlen, hall⟩, hall⟩

end MultipartForm

end ServiceDispatch
