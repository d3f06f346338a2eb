import ServiceDispatch.Proofs.Form.Reading

/-!
# What stands in front of a multipart body

The opening boundary is the first place where two dashes and the boundary occur. Unlike the later
ones it is not looked for at the beginning of a line, so that nothing need stand in front of it. A
preamble without that place is passed: a reader is behind the same boundary then as without it
(`cutsAt_preamble`), and from there on two readers do the same. Two cursors that go along with them
are apart by the length of the preamble at every step (`Takes.span_eq`), and so in all that they
give (`exists_gives_shift`).

A preamble that has that place, be it in the middle of a line, is not passed: what is read is the
preamble from there on, and the body behind it.
-/

namespace ServiceDispatch

open Multipart Offsets

/-- The places so many bytes later. -/
def Span.shift (k : Nat) (s : Span) : Span := ⟨k + s.start, k + s.stop⟩

namespace Offsets

theorem length_slice {s t : Bytes} {span : Span} (h : slice s span = .ok t) :
    span.start + t.length = span.stop := by
  obtain ⟨hstart, hstop, rfl⟩ := slice_eq_ok_iff.1 h
  rw [List.length_drop, List.length_take, Nat.min_eq_left hstop]
  omega

end Offsets

/-! ### The opening boundary -/

namespace PartReader

variable {r r' : PartReader} {boundary body body' before before' rest : Bytes}

/-- Where the opening boundary stands makes no difference to the reader. -/
theorem next_start_eq (limit : Nat) (h : Text.CutsAt (dashes ++ boundary) body before rest)
    (h' : Text.CutsAt (dashes ++ boundary) body' before' rest) :
    next ⟨boundary, limit, .start body, 0⟩ = next ⟨boundary, limit, .start body', 0⟩ := by
  simp only [next, PartReader.rest, afterOpening_eq_ok_iff.2 ⟨before, h⟩,
    afterOpening_eq_ok_iff.2 ⟨before', h'⟩, close]

theorem results_eq_of_next (h : r.next = r'.next) : r.results = r'.results := by
  rcases hnext : r'.next with ⟨_ | a, s⟩
  · rw [results_of_next_none (h.trans hnext), results_of_next_none hnext]
  · rw [results_of_next (h.trans hnext), results_of_next hnext]

/-- A reader that gives a part is behind the boundary that ends it. -/
theorem position_of_next {p : Part} (h : r.next = (some (.ok p), r')) :
    ∃ rest, r'.position = .after rest := by
  by_cases hr : r.position = .finished
  · rw [next_of_finished hr] at h
    cases h
  · rw [next_of_not_finished hr] at h
    split at h
    · next rest _ =>
      cases h
      exact ⟨rest, rfl⟩
    · cases h
    · cases h

end PartReader

/-! ### Cursors in two bodies -/

namespace PartCursor

variable {c c₁ c' c₁' : PartCursor} {r r₁ r' : PartReader} {k : Nat}

theorem Stands.offset_add {rest : Bytes} (h : Stands c r) (hr : r.position = .after rest) :
    c.offset + rest.length = c.body.length := by
  cases h with
  | start => cases hr
  | @after pos rest' hc hpos hat =>
      cases hr
      rw [offset, hpos, Option.getD_some, hat.add_length]
  | finished hc hfinished => cases hfinished.symm.trans hr

/-- A part ends where what follows it begins, so in the longer of two bodies with the same rest it
stands as much later. -/
theorem Takes.span_eq {p : Part} {span span' : Span} {rest : Bytes} (h : c.Takes c₁ p span)
    (h' : c'.Takes c₁' p span') (hstands : Stands c₁ r₁) (hstands' : Stands c₁' r₁)
    (hrest : r₁.position = .after rest) (hboundary : c'.boundary = c.boundary)
    (hlength : c₁'.body.length = k + c₁.body.length) : span' = span.shift k := by
  have hoffset := hstands.offset_add hrest
  have hoffset' := hstands'.offset_add hrest
  have hdata := length_slice h.data
  have hdata' := length_slice h'.data
  rw [h.offset_eq] at hoffset
  rw [h'.offset_eq, hboundary] at hoffset'
  obtain ⟨start, stop⟩ := span
  obtain ⟨start', stop'⟩ := span'
  rw [Span.shift, Span.mk.injEq]
  dsimp only at *
  omega

/-- Two cursors whose readers go on alike give the same parts and the same mistake, each part in the
longer body as much later as that is longer. -/
theorem exists_gives_shift (h : Stands c r) (h' : Stands c' r') (hin : c.Inside)
    (hin' : c'.Inside) (hboundary : c'.boundary = c.boundary)
    (hlength : c'.body.length = k + c.body.length) (hnext : r'.next = r.next) :
    ∃ items mistake, c.Gives items mistake ∧
      c'.Gives (items.map fun i => (i.1, i.2.shift k)) mistake := by
  -- each call that gives a part leaves less ahead of the reader
  induction hn : r.ahead using Nat.strong_induction_on generalizing c c' r r' with
  | _ n ih =>
    obtain ⟨hsame, hinside, houtcome⟩ := next_cases h hin
    obtain ⟨hsame', hinside', houtcome'⟩ := next_cases h' hin'
    rw [hnext] at houtcome'
    cases hc : c.next with
    | mk a c₁ =>
    cases hc' : c'.next with
    | mk a' c₁' =>
    cases hr : r.next with
    | mk b r₁ =>
    rw [hc] at hsame hinside houtcome
    rw [hc'] at hsame' hinside' houtcome'
    rw [hr] at houtcome houtcome'
    cases houtcome with
    | ended hfinished =>
        cases houtcome' with
        | ended hfinished' =>
            exact ⟨[], none, gives_nil hc hfinished hin, gives_nil hc' hfinished' hin'⟩
    | mistake e hfinished =>
        cases houtcome' with
        | mistake _ hfinished' =>
            exact ⟨[], some e, gives_nil hc hfinished hin, gives_nil hc' hfinished' hin'⟩
    | @part p span hstands htakes =>
        cases houtcome' with
        | @part _ span' hstands' htakes' =>
            obtain ⟨rest, hrest⟩ := PartReader.position_of_next hr
            have hlength₁ : c₁'.body.length = k + c₁.body.length := by
              rw [hsame'.body, hsame.body, hlength]
            have hboundary₁ : c₁'.boundary = c₁.boundary := by
              rw [hsame'.boundary, hsame.boundary, hboundary]
            obtain rfl := htakes.span_eq htakes' hstands hstands' hrest hboundary hlength₁
            obtain ⟨items, mistake, hgives, hgives'⟩ :=
              ih r₁.ahead (hn ▸ PartReader.ahead_of_next hr) hstands hstands' hinside hinside'
                hboundary₁ hlength₁ rfl rfl
            exact ⟨(p, span) :: items, mistake, hgives.cons hc hsame htakes,
              hgives'.cons hc' hsame' htakes'⟩

end PartCursor

/-! ### Bodies behind a preamble -/

namespace MultipartForm

/-- The whole is read like the body that stands at its end: the same parts, or the same mistake, and
each part is as much later as there stands in front of the body. -/
structure ReadsBehind (boundary : String) (limit : Nat) (before body whole : Bytes) : Prop where
  whole_eq : whole = before ++ body
  parse_eq : parse ⟨boundary, limit, whole⟩ = parse ⟨boundary, limit, body⟩
  items : ∃ items mistake,
    PartCursor.Gives { boundary := Utf8.encode boundary, limit, body } items mistake ∧
      PartCursor.Gives { boundary := Utf8.encode boundary, limit, body := whole }
        (items.map fun i => (i.1, i.2.shift before.length)) mistake

/-- What stands in front of the opening boundary is passed. -/
theorem readsBehind_of_cutsAt {boundary : String} {before rest whole : Bytes} (limit : Nat)
    (h : Text.CutsAt (dashes ++ Utf8.encode boundary) whole before rest) :
    ReadsBehind boundary limit before (dashes ++ Utf8.encode boundary ++ rest) whole := by
  have hbegins := Text.CutsAt.nil (dashes ++ Utf8.encode boundary) rest
  have hnext := PartReader.next_start_eq limit h hbegins
  have hlength : whole.length =
      before.length + (dashes ++ Utf8.encode boundary ++ rest).length := by
    rw [h.eq_append, List.length_append]
  refine ⟨h.eq_append, ?_, ?_⟩
  · exact congrArg (List.mapM id) (PartReader.results_eq_of_next hnext)
  · exact PartCursor.exists_gives_shift (.start rfl rfl) (.start rfl rfl)
      ⟨Nat.zero_le _, Nat.zero_le _⟩ ⟨Nat.zero_le _, Nat.zero_le _⟩ rfl hlength hnext

/-- A preamble of whole lines that nowhere has the two dashes and the boundary is passed: what is
read is the body behind it, its parts so much later. If it has them, be it in the middle of a line,
reading begins there, and goes on from the preamble into the body. -/
theorem readsBehind_preamble {boundary : String} {preamble body : Bytes} (limit : Nat)
    (hboundary : '\n' ∉ boundary.toList) (hbody : dashes ++ Utf8.encode boundary <+: body)
    (hlines : preamble = [] ∨ lineBreak <:+ preamble) :
    (¬ dashes ++ Utf8.encode boundary <:+: preamble →
        ReadsBehind boundary limit preamble body (preamble ++ body)) ∧
      ∀ before behind, Text.CutsAt (dashes ++ Utf8.encode boundary) preamble before behind →
        ReadsBehind boundary limit before (dashes ++ Utf8.encode boundary ++ (behind ++ body))
          (preamble ++ body) := by
  constructor
  · intro hfree
    obtain ⟨rest, rfl⟩ := hbody
    have hfeed : 10 ∉ Utf8.encode boundary := by
      rw [Utf8.mem_encode_iff (by decide)]
      rintro ⟨c, hc, hfeed⟩
      obtain rfl : c = '\n' := Char.toNat_inj.1 hfeed
      exact hboundary hc
    exact readsBehind_of_cutsAt limit (cutsAt_preamble hfeed hlines hfree rest)
  · intro before behind hcut
    obtain rfl := hcut.eq_append
    refine readsBehind_of_cutsAt limit ?_
    have hwhole : before ++ (dashes ++ Utf8.encode boundary ++ behind) ++ body =
        before ++ (dashes ++ Utf8.encode boundary ++ (behind ++ body)) := by
      simp only [List.append_assoc]
    rw [hwhole, Text.cutsAt_iff]
    exact Text.cutsAt_iff.1 hcut

/-- A body of one field. -/
def greeting : Bytes :=
  Utf8.encode "--b\r\nContent-Disposition: form-data; name=\"n\"\r\n\r\nhi\r\n--b--"

/-- The field. -/
def greetingPart : Part where
  name := "n"
  fileName := none
  contentType := MediaType.plainText
  headers := [("Content-Disposition", "form-data; name=\"n\"")]
  data := Utf8.encode "hi"

theorem readsBehind_preamble_note :
    let whole := Utf8.encode "a note\r\n" ++ greeting
    ReadsBehind "b" 1 (Utf8.encode "a note\r\n") greeting whole ∧
      parse ⟨"b", 1, whole⟩ = .ok [greetingPart] := by
  intro whole
  have hparse : parse ⟨"b", 1, greeting⟩ = .ok [greetingPart] := by decide +kernel
  have hbody : dashes ++ Utf8.encode "b" <+: greeting := by decide
  have hlines : lineBreak <:+ Utf8.encode "a note\r\n" := by decide
  obtain ⟨hfree, -⟩ := readsBehind_preamble 1 (by decide) hbody (.inr hlines)
  have hwhole := hfree (by decide)
  exact ⟨hwhole, hwhole.parse_eq.trans hparse⟩

/-- A line that only mentions the boundary is taken for the one that opens the body. -/
theorem parse_mentioned_boundary :
    let opening := dashes ++ Utf8.encode "b"
    let preamble := Utf8.encode "x--b\r\n"
    opening <+: greeting ∧ lineBreak <:+ preamble ∧ ¬ opening <+: preamble ∧
      ¬ delimiter (Utf8.encode "b") <:+: preamble ∧
      parse ⟨"b", 1000, greeting⟩ = .ok [greetingPart] ∧
      parse ⟨"b", 1000, preamble ++ greeting⟩ = .error (.malformed (.invalidHeader "--b")) := by
  decide +kernel

end MultipartForm

end ServiceDispatch
