import ServiceDispatch.Proofs.Form.HeaderParams
import ServiceDispatch.Proofs.Form.PartLayout
import ServiceDispatch.Proofs.Media.Type

/-!
# Writing a multipart body

`FormEntry.writeForm` writes fields and uploads the way clients do, one after the other between
boundaries, with names and file names quoted. The parser reads such a body back to exactly the
entries that were written.

The data of an entry is arbitrary up to the one condition that the delimiter does not occur in
it, so it may hold parts of a delimiter and end with one. That no occurrence straddles the end
of the data is because a carriage return begins the delimiter and occurs nowhere else in it.
The other ends are found in the same way: the header block holds at most one line break, and the
preamble does not end with a character of the opening boundary.
-/

namespace ServiceDispatch

open Multipart

/-- A field or an upload to be sent. -/
structure FormEntry where
  name : String
  fileName : Option String := none
  contentType : Option String := none
  data : Bytes
  deriving DecidableEq, Repr

namespace FormEntry

def disposition (e : FormEntry) : String :=
  HeaderParams.write "form-data"
    (("name", e.name) :: (e.fileName.map fun f => ("filename", f)).toList)

def headers (e : FormEntry) : List (String × String) :=
  ("Content-Disposition", e.disposition) :: (e.contentType.map fun c => ("Content-Type", c)).toList

/-- A header as it stands on its line. -/
def headerText (h : String × String) : List Char := h.1.toList ++ ':' :: ' ' :: h.2.toList

/-- An entry with the boundary in front of it, up to the line break behind its data. -/
def write (boundary : Bytes) (e : FormEntry) : Bytes :=
  dashes ++ boundary ++ lineBreak ++
    e.headers.flatMap (fun h => Utf8.encode (String.ofList (headerText h)) ++ lineBreak) ++
    lineBreak ++ e.data ++ lineBreak

/-- A body with the given entries between a preamble and an epilogue. -/
def writeForm (preamble epilogue boundary : Bytes) (entries : List FormEntry) : Bytes :=
  preamble ++ entries.flatMap (write boundary) ++ dashes ++ boundary ++ dashes ++ epilogue

/-- The part that an entry is read as. -/
def part (e : FormEntry) : Part where
  name := e.name
  fileName := e.fileName
  contentType := e.contentType.getD MediaType.plainText
  headers := e.headers
  data := e.data

end FormEntry

/-- A text that can be sent in a header: on one line, and trimmed. -/
structure IsHeaderText (s : String) : Prop where
  unbroken : ∀ c ∈ s.toList, c ≠ '\r' ∧ c ≠ '\n'
  trim_eq : Text.trim s = s

/-- The name and the file name can be sent in a header, the content type is an essence on one
line, and the data does not contain the delimiter. -/
structure FormEntry.Writable (boundary : Bytes) (e : FormEntry) : Prop where
  name : IsHeaderText e.name
  fileName : ∀ f ∈ e.fileName, IsHeaderText f
  contentType : ∀ t ∈ e.contentType,
    MediaType.essence t = t ∧ ∀ c ∈ t.toList, c ≠ '\r' ∧ c ≠ '\n'
  data : ¬ delimiter boundary <:+: e.data

namespace FormEntry

/-! ### Headers -/

/-- A header that can be written: a name without blanks and colons, and a value on one line. -/
structure IsHeader (h : String × String) : Prop where
  name : ∀ c ∈ h.1.toList, Text.isBlank c = false ∧ c ≠ ':'
  value : IsHeaderText h.2

theorem isHeaderText_disposition {boundary : Bytes} {e : FormEntry} (he : e.Writable boundary) :
    IsHeaderText e.disposition := by
  constructor
  · have hname : ∀ c ∈ "name".toList, c ≠ '\r' ∧ c ≠ '\n' := by simp
    have hfilename : ∀ c ∈ "filename".toList, c ≠ '\r' ∧ c ≠ '\n' := by simp
    refine HeaderParams.forall_mem_write (by simp) (by simp) fun p hp => ?_
    rw [List.mem_cons, Option.mem_toList, Option.map_eq_some_iff] at hp
    rcases hp with rfl | ⟨f, hf, rfl⟩
    · exact ⟨hname, he.name.unbroken⟩
    · exact ⟨hfilename, (he.fileName f hf).unbroken⟩
  · have htrim : Text.Trimmed e.disposition.toList :=
      HeaderParams.trimmed_write (by simp [Text.isBlank]) (by decide) (List.cons_ne_nil _ _)
    rw [Text.trim, htrim.trimChars_eq, String.ofList_toList]

theorem isHeader_of_mem {boundary : Bytes} {e : FormEntry} (he : e.Writable boundary) :
    ∀ h ∈ e.headers, IsHeader h := by
  have hdisposition : ∀ c ∈ "Content-Disposition".toList, Text.isBlank c = false ∧ c ≠ ':' := by
    simp [Text.isBlank]
  have htype : ∀ c ∈ "Content-Type".toList, Text.isBlank c = false ∧ c ≠ ':' := by
    simp [Text.isBlank]
  intro h hh
  rw [headers, List.mem_cons, Option.mem_toList, Option.map_eq_some_iff] at hh
  rcases hh with rfl | ⟨t, ht, rfl⟩
  · exact ⟨hdisposition, isHeaderText_disposition he⟩
  · obtain ⟨hessence, hunbroken⟩ := he.contentType t ht
    have htrim := (hessence ▸ (MediaType.isPlain_essence t).trimmed).trimChars_eq
    refine ⟨htype, hunbroken, ?_⟩
    rw [Text.trim, htrim, String.ofList_toList]

theorem headerOf_headerText {h : String × String} (hh : IsHeader h) :
    headerOf (headerText h) = h := by
  have hcolon : ∀ c ∈ h.1.toList, (c != ':') = true := by
    intro c hc
    exact bne_iff_ne.2 (hh.name c hc).2
  have hname : Text.trimChars h.1.toList = h.1.toList :=
    (Text.Trimmed.of_forall fun c hc => (hh.name c hc).1).trimChars_eq
  have hvalue : Text.trimChars (' ' :: h.2.toList) = h.2.toList := by
    rw [Text.trimChars_cons_of_isBlank _ rfl, ← Text.toList_trim, hh.value.trim_eq]
  rw [headerOf, headerText, List.takeWhile_append_of_pos hcolon,
    List.dropWhile_append_of_pos hcolon]
  simp [hname, hvalue]

theorem unbroken_headerText {h : String × String} (hh : IsHeader h) :
    ∀ c ∈ headerText h, c ≠ '\r' ∧ c ≠ '\n' := by
  intro c hc
  simp only [headerText, List.mem_append, List.mem_cons] at hc
  rcases hc with hc | rfl | rfl | hc
  · have hblank := (hh.name c hc).1
    constructor
    · rintro rfl
      exact absurd hblank (by decide)
    · rintro rfl
      exact absurd hblank (by decide)
  · decide
  · decide
  · exact hh.value.unbroken c hc

theorem colon_mem_headerText (h : String × String) : ':' ∈ headerText h := by
  simp [headerText]

theorem headersOf_headerText {hs : List (String × String)} (h : ∀ x ∈ hs, IsHeader x) :
    headersOf (hs.map headerText) = hs := by
  induction hs with
  | nil => rfl
  | cons x hs ih =>
      have hne : (!(headerText x).isEmpty) = true := by
        simp [headerText]
      have htail : headersOf (hs.map headerText) = hs :=
        ih fun y hy => h y (List.mem_cons_of_mem x hy)
      rw [headersOf] at htail ⊢
      rw [List.map_cons, List.filter_cons, if_pos hne, List.map_cons, htail,
        headerOf_headerText (h x (by simp))]

/-! ### The header block -/

/-- The header block of an entry, with its data. -/
def text (e : FormEntry) : PartText where
  padding := []
  headers := Utf8.encode (String.ofList (lineEnd.intercalate (e.headers.map headerText)))
  data := e.data

theorem encode_lineEnd : Utf8.encode (String.ofList lineEnd) = lineBreak := by decide

theorem encode_intercalate_cons {l : List Char} {ls : List (List Char)} (h : ls ≠ []) :
    Utf8.encode (String.ofList (lineEnd.intercalate (l :: ls))) =
      Utf8.encode (String.ofList l) ++
        (lineBreak ++ Utf8.encode (String.ofList (lineEnd.intercalate ls))) := by
  rw [List.intercalate_cons_of_ne_nil h, String.ofList_append, String.ofList_append,
    Utf8.encode_append, Utf8.encode_append, encode_lineEnd, List.append_assoc]

/-- Lines that are each ended by a line break are joined by line breaks and ended by one. -/
theorem flatMap_encode_lineBreak {lines : List (List Char)} (h : lines ≠ []) :
    lines.flatMap (fun l => Utf8.encode (String.ofList l) ++ lineBreak) =
      Utf8.encode (String.ofList (lineEnd.intercalate lines)) ++ lineBreak := by
  induction lines with
  | nil => exact absurd rfl h
  | cons l ls ih =>
      by_cases hls : ls = []
      · subst hls
        simp
      · rw [List.flatMap_cons, ih hls, encode_intercalate_cons hls]
        simp

theorem not_mem_encode {cs : List Char} (h : ∀ c ∈ cs, c ≠ '\r' ∧ c ≠ '\n') :
    13 ∉ Utf8.encode (String.ofList cs) ∧ 10 ∉ Utf8.encode (String.ofList cs) := by
  rw [Utf8.mem_encode_iff (by decide), Utf8.mem_encode_iff (by decide), String.toList_ofList]
  constructor
  · rintro ⟨c, hc, hn⟩
    exact (h c hc).1 (Char.toNat_inj.1 hn)
  · rintro ⟨c, hc, hn⟩
    exact (h c hc).2 (Char.toNat_inj.1 hn)

/-- Each line break of a block of lines is one between two of them. -/
theorem count_encode_intercalate {lines : List (List Char)}
    (h : ∀ l ∈ lines, ∀ c ∈ l, c ≠ '\r' ∧ c ≠ '\n') :
    (Utf8.encode (String.ofList (lineEnd.intercalate lines))).count 13 = lines.length - 1 := by
  induction lines with
  | nil => rfl
  | cons l ls ih =>
      have hl : (Utf8.encode (String.ofList l)).count 13 = 0 :=
        List.count_eq_zero.2 (not_mem_encode (h l (by simp))).1
      by_cases hls : ls = []
      · subst hls
        simpa using hl
      · have hpos := List.length_pos_iff.2 hls
        rw [encode_intercalate_cons hls, List.count_append, List.count_append, hl,
          ih fun m hm => h m (List.mem_cons_of_mem l hm)]
        simp only [lineBreak, List.length_cons]
        rw [show List.count (13 : UInt8) [13, 10] = 1 from rfl]
        omega

theorem encode_ne_nil {cs : List Char} (h : cs ≠ []) : Utf8.encode (String.ofList cs) ≠ [] := by
  obtain ⟨c, cs, rfl⟩ := List.exists_cons_of_ne_nil h
  intro hnil
  rw [Utf8.encode_ofList, List.flatMap_cons, List.append_eq_nil_iff] at hnil
  exact absurd hnil.1 String.utf8EncodeChar_ne_nil

/-- A block of lines that are not empty ends with the last character of a line. -/
theorem getLast?_encode_intercalate {lines : List (List Char)}
    (h : ∀ l ∈ lines, l ≠ [] ∧ ∀ c ∈ l, c ≠ '\r' ∧ c ≠ '\n') :
    ∀ b ∈ (Utf8.encode (String.ofList (lineEnd.intercalate lines))).getLast?,
      b ≠ 13 ∧ b ≠ 10 := by
  induction lines with
  | nil => simp [List.intercalate]
  | cons l ls ih =>
      by_cases hls : ls = []
      · subst hls
        intro b hb
        rw [List.intercalate_singleton] at hb
        have hmem := List.mem_of_mem_getLast? hb
        have hfree := not_mem_encode (h l (by simp)).2
        constructor
        · rintro rfl
          exact hfree.1 hmem
        · rintro rfl
          exact hfree.2 hmem
      · have hrest := ih fun m hm => h m (List.mem_cons_of_mem l hm)
        have hne : lineEnd.intercalate ls ≠ [] := by
          obtain ⟨m, ms, rfl⟩ := List.exists_cons_of_ne_nil hls
          have hm := (h m (by simp)).1
          cases ms with
          | nil => simpa using hm
          | cons k ms => simp [List.intercalate_cons_of_ne_nil, hm]
        intro b hb
        rw [encode_intercalate_cons hls, ← List.append_assoc,
          List.getLast?_append_of_ne_nil _ (encode_ne_nil hne)] at hb
        exact hrest b hb

/-! ### Reading an entry -/

theorem forall_mem_lines {boundary : Bytes} {e : FormEntry} (he : e.Writable boundary) :
    ∀ l ∈ e.headers.map headerText, l ≠ [] ∧ ∀ c ∈ l, c ≠ '\r' ∧ c ≠ '\n' := by
  intro l hl
  obtain ⟨h, hh, rfl⟩ := List.mem_map.1 hl
  exact ⟨List.ne_nil_of_mem (colon_mem_headerText h),
    unbroken_headerText (isHeader_of_mem he h hh)⟩

theorem lines_ne_nil (e : FormEntry) : e.headers.map headerText ≠ [] := by
  rw [headers, List.map_cons]
  exact List.cons_ne_nil _ _

theorem isLines_text {boundary : Bytes} {e : FormEntry} (he : e.Writable boundary) :
    IsLines e.text.headers (e.headers.map headerText) := by
  refine ⟨e.lines_ne_nil, fun l hl hbreak => ?_, rfl⟩
  exact ((forall_mem_lines he l hl).2 '\r' (hbreak.subset (by simp [lineEnd]))).1 rfl

theorem head?_text_headers (e : FormEntry) : e.text.headers.head? = some 67 := by
  have hhead : ∀ cs : List Char, (Utf8.encode (String.ofList ('C' :: cs))).head? = some 67 := by
    intro cs
    rw [Utf8.encode_ofList, List.flatMap_cons]
    rfl
  have hline : ∃ cs, lineEnd.intercalate (e.headers.map headerText) = 'C' :: cs := by
    cases ht : e.contentType with
    | none => exact ⟨_, by simp [headers, ht, headerText]; rfl⟩
    | some t => exact ⟨_, by simp [headers, ht, headerText, List.intercalate_cons_of_ne_nil]; rfl⟩
  obtain ⟨cs, hcs⟩ := hline
  rw [text, hcs, hhead]

/-- The header block holds at most one line break, and data ends at the first delimiter because
a carriage return occurs only at the beginning of the delimiter. -/
theorem delimited_text {boundary : Bytes} (hb : 13 ∉ boundary) {e : FormEntry}
    (he : e.Writable boundary) (rest : Bytes) : e.text.Delimited boundary rest := by
  refine ⟨by simp [text], ?_, ?_, ?_⟩
  · rintro ⟨t, ht⟩
    have hhead := e.head?_text_headers
    rw [← ht] at hhead
    cases hhead
  · apply Text.CutsAt.of_last
    · intro b hb
      obtain ⟨h13, h10⟩ := getLast?_encode_intercalate (forall_mem_lines he) b hb
      simp [lineBreak, h13, h10]
    · intro hin
      have hle := hin.sublist.count_le 13
      rw [text, count_encode_intercalate fun l hl => (forall_mem_lines he l hl).2] at hle
      have hlen : (e.headers.map headerText).length ≤ 2 := by
        cases ht : e.contentType <;> simp [headers, ht]
      have htwo : (lineBreak ++ lineBreak).count 13 = 2 := rfl
      omega
  · refine Text.CutsAt.of_head (a := 13) (t := 10 :: (dashes ++ boundary)) ?_ he.data rest
    simp [dashes, hb]

theorem isKey_params (e : FormEntry) :
    ∀ p ∈ ("name", e.name) :: (e.fileName.map fun f => ("filename", f)).toList,
      HeaderParams.IsKey p.1 := by
  have hname : HeaderParams.IsKey "name" := ⟨by simp [Text.isBlank], by simp⟩
  have hfilename : HeaderParams.IsKey "filename" := ⟨by simp [Text.isBlank], by simp⟩
  intro p hp
  rw [List.mem_cons, Option.mem_toList, Option.map_eq_some_iff] at hp
  rcases hp with rfl | ⟨f, -, rfl⟩
  · exact hname
  · exact hfilename

theorem dispositionParams_headers {boundary : Bytes} {e : FormEntry} (he : e.Writable boundary) :
    dispositionParams e.headers =
      ("name", e.name) :: (e.fileName.map fun f => ("filename", f)).toList := by
  have hdisposition : (e.headers.filter fun h =>
      Text.sameIgnoringCase h.1 "content-disposition") =
        [("Content-Disposition", e.disposition)] := by
    have hsame : Text.sameIgnoringCase "Content-Disposition" "content-disposition" = true := by
      decide
    have hother : Text.sameIgnoringCase "Content-Type" "content-disposition" = false := by
      decide
    cases ht : e.contentType <;> simp [headers, ht, hsame, hother]
  rw [dispositionParams, hdisposition, List.flatMap_singleton, disposition,
    HeaderParams.read_write (by simp) e.isKey_params]
  cases hf : e.fileName with
  | none => simp [he.name.trim_eq]
  | some f => simp [he.name.trim_eq, (he.fileName f hf).trim_eq]

theorem contentTypeOf_headers {boundary : Bytes} {e : FormEntry} (he : e.Writable boundary) :
    contentTypeOf e.headers = e.contentType.getD MediaType.plainText := by
  have hsame : Text.sameIgnoringCase "Content-Type" "content-type" = true := by decide
  have hother : Text.sameIgnoringCase "Content-Disposition" "content-type" = false := by decide
  cases ht : e.contentType with
  | none => simp [contentTypeOf, lastValue?, headers, ht, hother]
  | some t => simp [contentTypeOf, lastValue?, headers, ht, hsame, (he.contentType t ht).1]

theorem describes_text {boundary : Bytes} {e : FormEntry} (he : e.Writable boundary) :
    e.text.Describes e.part := by
  have hfile : Text.sameIgnoringCase "filename" "name" = false := by decide
  have hname : Text.sameIgnoringCase "name" "filename" = false := by decide
  have hparams : dispositionParams e.part.headers = _ := dispositionParams_headers he
  constructor
  · refine ⟨_, isLines_text he, ?_, (headersOf_headerText (isHeader_of_mem he)).symm⟩
    intro l hl _
    obtain ⟨h, -, rfl⟩ := List.mem_map.1 hl
    exact colon_mem_headerText h
  · rw [hparams]
    cases hf : e.fileName <;> simp [lastValue?, part, hfile]
  · rw [hparams]
    cases hf : e.fileName <;> simp [lastValue?, part, hf, hname]
  · exact (contentTypeOf_headers he).symm
  · rfl

/-! ### Reading all entries -/

/-- What follows the opening boundary of a written form. -/
def behindOpening (epilogue boundary : Bytes) (entries : List FormEntry) : Bytes :=
  entries.foldr (fun e rest => e.text.written boundary rest) (dashes ++ epilogue)

/-- The boundary in front of an entry is moved to what is written before it. -/
theorem write_append (boundary rest : Bytes) (e : FormEntry) :
    write boundary e ++ (dashes ++ (boundary ++ rest)) =
      dashes ++ (boundary ++ e.text.written boundary rest) := by
  have hlines := flatMap_encode_lineBreak e.lines_ne_nil
  rw [List.flatMap_map] at hlines
  rw [write, hlines]
  simp [text, PartText.written, PartText.block, PartText.content, delimiter]

theorem writeForm_eq (preamble epilogue boundary : Bytes) (entries : List FormEntry) :
    writeForm preamble epilogue boundary entries =
      preamble ++ (dashes ++ boundary ++ behindOpening epilogue boundary entries) := by
  have hentries : entries.flatMap (write boundary) ++
      (dashes ++ (boundary ++ (dashes ++ epilogue))) =
        dashes ++ (boundary ++ behindOpening epilogue boundary entries) := by
    induction entries with
    | nil => rfl
    | cons e es ih =>
        rw [List.flatMap_cons, List.append_assoc, ih, write_append]
        rfl
  rw [writeForm]
  simpa using hentries

theorem layout_behindOpening {boundary : Bytes} (hb : 13 ∉ boundary) (epilogue : Bytes)
    {entries : List FormEntry} (h : ∀ e ∈ entries, e.Writable boundary) :
    Layout boundary (entries.map text) (behindOpening epilogue boundary entries) := by
  induction entries with
  | nil => exact .closed epilogue
  | cons e es ih =>
      have hrest := ih fun d hd => h d (List.mem_cons_of_mem e hd)
      exact .part (delimited_text hb (h e (by simp)) _) hrest

theorem isBody_writeForm {boundary preamble : Bytes} (epilogue : Bytes)
    (hb : 13 ∉ boundary ∧ 10 ∉ boundary) (hend : preamble = [] ∨ lineBreak <:+ preamble)
    (hfree : ¬ dashes ++ boundary <:+: preamble) {entries : List FormEntry}
    (h : ∀ e ∈ entries, e.Writable boundary) :
    IsBody boundary (entries.map text) (writeForm preamble epilogue boundary entries) := by
  refine ⟨preamble, behindOpening epilogue boundary entries, ?_,
    layout_behindOpening hb.1 epilogue h⟩
  rw [writeForm_eq]
  exact cutsAt_preamble hb.2 hend hfree _

/-- The content type of a form with the given boundary. -/
def formType (boundary : String) : String :=
  HeaderParams.write MediaType.multipartForm [("boundary", boundary)]

theorem boundaryOf_formType {boundary : String} (hne : boundary ≠ "")
    (hb : IsHeaderText boundary) :
    MultipartForm.boundaryOf (formType boundary) = .ok boundary := by
  have hkey : HeaderParams.IsKey "boundary" := ⟨by simp [Text.isBlank], by simp⟩
  have hread : HeaderParams.read (formType boundary) = [("boundary", boundary)] := by
    rw [formType, HeaderParams.read_write (by simp [MediaType.multipartForm])
      (by simpa using hkey), List.map_singleton, hb.trim_eq]
  have hempty : boundary.isEmpty = false := by simpa using hne
  rw [MultipartForm.boundaryOf, hread, List.find?_cons_of_pos (by simp)]
  simp [hempty]

/-- A form that was written is read back, under the boundary that its content type declares, to
exactly the entries that were written. -/
theorem parse_writeForm {boundary : String} (hne : boundary ≠ "") (hb : IsHeaderText boundary)
    {preamble : Bytes} (hend : preamble = [] ∨ lineBreak <:+ preamble)
    (hfree : ¬ dashes ++ Utf8.encode boundary <:+: preamble) (epilogue : Bytes)
    {entries : List FormEntry} (h : ∀ e ∈ entries, e.Writable (Utf8.encode boundary))
    {limit : Nat} (hlimit : entries.length ≤ limit) :
    ((MultipartForm.boundaryOf (formType boundary)).bind fun declared =>
        MultipartForm.parse
          { boundary := declared, limit,
            body := writeForm preamble epilogue (Utf8.encode boundary) entries }) =
      .ok (entries.map part) := by
  have hunbroken : 13 ∉ Utf8.encode boundary ∧ 10 ∉ Utf8.encode boundary := by
    simpa using not_mem_encode hb.unbroken
  rw [boundaryOf_formType hne hb, Except.bind, MultipartForm.parse_eq_ok_iff]
  refine ⟨entries.map text, isBody_writeForm epilogue hunbroken hend hfree h, ?_, ?_⟩
  · rwa [List.length_map]
  · rw [List.forall₂_map_left_iff, List.forall₂_map_right_iff, List.forall₂_same]
    exact fun e he => describes_text (h e he)

/-- An upload whose data ends with the beginning of a delimiter, and a field without data, under
a boundary that has to be quoted. -/
theorem parse_writeForm_quoted :
    ((MultipartForm.boundaryOf (formType "a\"b; c")).bind fun declared =>
        MultipartForm.parse
          { boundary := declared, limit := 2,
            body := writeForm [13, 10] [33] (Utf8.encode "a\"b; c")
              [⟨"up;\"load\"", some "a\\b.txt", some "text/csv", [7, 13, 10, 45, 45, 97]⟩,
                ⟨"", none, none, []⟩] }) =
      .ok
        [part ⟨"up;\"load\"", some "a\\b.txt", some "text/csv", [7, 13, 10, 45, 45, 97]⟩,
          part ⟨"", none, none, []⟩] := by
  have hfile : IsHeaderText "a\\b.txt" := ⟨by simp, by decide⟩
  have htype : MediaType.essence "text/csv" = "text/csv" ∧
      ∀ c ∈ "text/csv".toList, c ≠ '\r' ∧ c ≠ '\n' := ⟨by decide, by simp⟩
  refine parse_writeForm (by decide) ⟨by simp, by decide⟩ (.inr (by decide)) (by decide) [33]
    (fun e he => ?_) (by decide)
  rw [List.mem_cons, List.mem_singleton] at he
  rcases he with rfl | rfl
  · constructor
    · exact ⟨by simp, by decide⟩
    · rintro f ⟨⟩
      exact hfile
    · rintro t ⟨⟩
      exact htype
    · decide
  · constructor
    · exact ⟨by simp, by decide⟩
    · rintro f ⟨⟩
    · rintro t ⟨⟩
    · decide

end FormEntry

end ServiceDispatch
