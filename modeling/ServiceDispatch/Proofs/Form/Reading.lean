import ServiceDispatch.Proofs.Form.Cursor

/-!
# Reading a multipart body part by part

The parts of a body are read call by call, by whoever holds the reader, for as long as they like.
`answer next n s` is what the call after `n` others gives. The answers of a `PartReader` are its
`results` and then nothing, and a `PartCursor` at the same place gives the same answers, from slices
of the body that follow one another.

`Leading` lays out the first parts of a body and leaves open what follows them, so it can be said
what is read of a body that has more parts than allowed.
-/

namespace ServiceDispatch

open Multipart Offsets

/-! ### Repeated calls -/

section Calls

variable {σ α : Type} (next : σ → Option α × σ)

/-- The state after `n` calls. -/
def stateAfter (n : Nat) (s : σ) : σ := (fun s => (next s).2)^[n] s

/-- What the call after `n` others gives. -/
def answer (n : Nat) (s : σ) : Option α := (next (stateAfter next n s)).1

theorem stateAfter_succ (n : Nat) (s : σ) :
    stateAfter next (n + 1) s = (next (stateAfter next n s)).2 :=
  Function.iterate_succ_apply' _ n s

theorem answer_succ (n : Nat) (s : σ) : answer next (n + 1) s = answer next n (next s).2 := rfl

/-- Calls whose answer does not change the state any more give nothing for ever. -/
theorem answer_of_closed {next : σ → Option α × σ} {s : σ} (h : next s = (none, s)) (n : Nat) :
    answer next n s = none := by
  induction n with
  | zero => exact congrArg Prod.fst h
  | succ n ih => rw [answer_succ, h, ih]

end Calls

/-! ### The answers of the reader -/

namespace PartReader

theorem length_of_rest {r : PartReader} {rest : Bytes} (hr : r.position ≠ .finished)
    (h : r.rest = .ok rest) : rest.length < r.ahead := by
  obtain ⟨boundary, limit, position, parsed⟩ := r
  cases position with
  | start body =>
      obtain ⟨preamble, hcut⟩ := afterOpening_eq_ok_iff.1 h
      rw [ahead, hcut.eq_append]
      simp only [List.length_append]
      omega
  | after rest' =>
      cases h
      exact Nat.lt_succ_self _
  | finished => exact absurd rfl hr

theorem ahead_pos {r : PartReader} (hr : r.position ≠ .finished) : 0 < r.ahead := by
  obtain ⟨boundary, limit, position, parsed⟩ := r
  cases position with
  | finished => exact absurd rfl hr
  | start body => exact Nat.succ_pos _
  | after rest => exact Nat.succ_pos _

/-- A call that gives anything leaves less ahead. -/
theorem ahead_of_next {r r' : PartReader} {a : Except FormError Part}
    (h : r.next = (some a, r')) : r'.ahead < r.ahead := by
  by_cases hr : r.position = .finished
  · rw [next_of_finished hr] at h
    cases h
  · rw [next_of_not_finished hr] at h
    split at h
    · next p rest hread =>
      cases h
      obtain ⟨rest', hrest', hnext⟩ := bind_eq_ok_iff.1 hread
      exact (Nat.succ_le_of_lt (length_of_nextPart hnext)).trans_lt (length_of_rest hr hrest')
    · cases h
    · cases h
      exact ahead_pos hr

theorem results_of_next {r r' : PartReader} {a : Except FormError Part}
    (h : r.next = (some a, r')) : r.results = a :: r'.results := by
  rw [results, h]
  exact if_pos (ahead_of_next h)

theorem results_of_next_none {r r' : PartReader} (h : r.next = (none, r')) : r.results = [] := by
  rw [results, h]

/-- At the end the reader is closed. -/
theorem next_of_next_none {r r' : PartReader} (h : r.next = (none, r')) :
    r'.next = (none, r') := by
  by_cases hr : r.position = .finished
  · rw [next_of_finished hr] at h
    cases h
    exact next_of_finished hr
  · rw [next_of_not_finished hr] at h
    split at h
    · cases h
    · cases h
      exact next_of_finished rfl
    · cases h

/-- The answers are the results one by one, and then nothing. -/
theorem answer_eq (n : Nat) (r : PartReader) : answer next n r = r.results[n]? := by
  induction n generalizing r with
  | zero =>
      cases h : r.next with
      | mk a r' =>
          change r.next.1 = _
          cases a with
          | none => rw [results_of_next_none h, h, List.getElem?_nil]
          | some a => rw [results_of_next h, h, List.getElem?_cons_zero]
  | succ n ih =>
      cases h : r.next with
      | mk a r' =>
          rw [answer_succ, ih, h]
          cases a with
          | none =>
              rw [results_of_next_none h, results_of_next_none (next_of_next_none h),
                List.getElem?_nil, List.getElem?_nil]
          | some a => rw [results_of_next h, List.getElem?_cons_succ]

end PartReader

/-! ### More parts than allowed -/

namespace Multipart

/-- The first parts behind a boundary, each with the boundary that ends it, and what follows. -/
inductive Leading (boundary : Bytes) : List PartText → Bytes → Bytes → Prop where
  | none (tail : Bytes) : Leading boundary [] tail tail
  | part {t : PartText} {ts : List PartText} {rest tail : Bytes} (head : t.Delimited boundary rest)
      (others : Leading boundary ts rest tail) :
      Leading boundary (t :: ts) (t.written boundary rest) tail

end Multipart

namespace PartReader

variable {boundary body preamble rest tail padding more : Bytes} {ts : List PartText}
  {parts : List Part} {limit : Nat}

/-- The first parts are read whatever follows them, if they are not too many. -/
theorem results_leading (h : Leading boundary ts rest tail)
    (hparts : List.Forall₂ PartText.Describes ts parts) {parsed : Nat}
    (hle : parsed + ts.length ≤ limit) :
    results ⟨boundary, limit, .after rest, parsed⟩ =
      parts.map .ok ++ results ⟨boundary, limit, .after tail, parsed + ts.length⟩ := by
  induction h generalizing parts parsed with
  | none tail =>
      rw [List.forall₂_nil_left_iff] at hparts
      subst hparts
      rfl
  | @part t ts rest tail head others ih =>
      obtain ⟨p, parts, hdescribes, hmore, rfl⟩ := List.forall₂_cons_left_iff.1 hparts
      rw [List.length_cons] at hle
      have hnext : nextPart boundary limit parsed (t.written boundary rest) =
          .ok (some (p, rest)) :=
        nextPart_eq_some_iff.2 ⟨by omega, t, rfl, head, hdescribes⟩
      have hcount : parsed + (ts.length + 1) = parsed + 1 + ts.length := by omega
      rw [hcount] at hle
      rw [results_after, hnext, List.length_cons, hcount]
      exact congrArg (List.cons _) (ih hmore hle)

/-- Behind a boundary that does not close the body no more than the allowed parts are read. -/
theorem results_over_limit (hpadding : ∀ b ∈ padding, b = 32 ∨ b = 9) :
    results ⟨boundary, limit, .after (padding ++ (lineBreak ++ more)), limit⟩ =
      [.error (.tooManyParts limit)] := by
  have hline : afterBoundaryLine (padding ++ (lineBreak ++ more)) = .ok more :=
    afterBoundaryLine_eq_ok_iff.2 ⟨padding, hpadding, rfl⟩
  have hdashes : ¬ dashes.isPrefixOf (padding ++ (lineBreak ++ more)) = true := by
    rw [List.isPrefixOf_iff_prefix]
    exact not_dashes_prefix hpadding more
  have hnext : nextPart boundary limit limit (padding ++ (lineBreak ++ more)) =
      .error (.tooManyParts limit) := by
    rw [nextPart, if_neg hdashes, hline]
    exact if_pos le_rfl
  rw [results_after, hnext]

theorem results_of_leading (hcut : Text.CutsAt (dashes ++ boundary) body preamble rest)
    (h : Leading boundary ts rest (padding ++ (lineBreak ++ more))) (hlimit : ts.length = limit)
    (hparts : List.Forall₂ PartText.Describes ts parts)
    (hpadding : ∀ b ∈ padding, b = 32 ∨ b = 9) :
    results ⟨boundary, limit, .start body, 0⟩ =
      parts.map .ok ++ [.error (.tooManyParts limit)] := by
  rw [results_start, afterOpening_eq_ok_iff.2 ⟨preamble, hcut⟩]
  dsimp only
  rw [results_leading h hparts (by omega), Nat.zero_add, hlimit, results_over_limit hpadding]

end PartReader

/-! ### The answers of the cursor -/

namespace PartCursor

variable {c : PartCursor} {r : PartReader}

theorem Outcome.stands {c' : PartCursor} {r' : PartReader}
    {a : Option (Except CursorStop (Part × Span))} {b : Option (Except FormError Part)}
    (h : Outcome c c' r' a b) : Stands c' r' := by
  cases h with
  | ended hc hr => exact .finished hc hr
  | mistake e hc hr => exact .finished hc hr
  | part h => exact h

/-- A cursor and a reader that stand at the same place do so after any number of calls. -/
theorem stands_stateAfter (h : Stands c r) (hin : c.Inside) (n : Nat) :
    Stands (stateAfter next n c) (stateAfter PartReader.next n r) ∧ (stateAfter next n c).Inside ∧
      c.Same (stateAfter next n c) := by
  induction n with
  | zero => exact ⟨h, hin, ⟨rfl, rfl, rfl⟩⟩
  | succ n ih =>
      obtain ⟨hn, hinside, hsame⟩ := ih
      obtain ⟨hsame', hinside', houtcome⟩ := next_cases hn hinside
      rw [stateAfter_succ, stateAfter_succ]
      refine ⟨houtcome.stands, hinside', ?_⟩
      exact ⟨hsame'.boundary.trans hsame.boundary, hsame'.limit.trans hsame.limit,
        hsame'.body.trans hsame.body⟩

/-- What all calls from a cursor on give: parts, no more than allowed, then at most one mistake,
and then nothing. With each part comes the slice of the body that is its data, and these stand
behind the cursor, each behind the delimiter that ends the one before. -/
structure Gives (c : PartCursor) (items : List (Part × Span)) (mistake : Option FormError) :
    Prop where
  answers : ∀ n, answer next n c =
    (items.map .ok ++ (mistake.map fun e => .error (.mistake e)).toList)[n]?
  length_le : c.parsed + items.length ≤ c.limit
  data : ∀ i ∈ items, slice c.body i.2 = .ok i.1.data
  ahead : ∀ i ∈ items, c.offset ≤ i.2.start
  apart : items.Pairwise fun i j => i.2.stop + (delimiter c.boundary).length ≤ j.2.start

/-- A call that leaves the cursor finished gives the mistake, if any, and nothing follows. -/
theorem gives_nil {c' : PartCursor} {mistake : Option FormError}
    (hnext : c.next = (mistake.map fun e => .error (.mistake e), c')) (hc : c'.finished = true)
    (hin : c.Inside) : c.Gives [] mistake := by
  refine ⟨fun n => ?_, hin.parsed_le, by simp, by simp, .nil⟩
  cases n with
  | zero =>
      refine (congrArg Prod.fst hnext).trans ?_
      cases mistake <;> rfl
  | succ n =>
      rw [answer_succ, hnext, answer_of_closed (next_of_finished hc)]
      cases mistake <;> rfl

/-- The items of a call that gives a part are that part and those of the cursor behind it. -/
theorem Gives.cons {c' : PartCursor} {p : Part} {span : Span} {items : List (Part × Span)}
    {mistake : Option FormError} (hnext : c.next = (some (.ok (p, span)), c')) (hsame : c.Same c')
    (htakes : c.Takes c' p span) (h : c'.Gives items mistake) :
    c.Gives ((p, span) :: items) mistake := by
  have hspan := (slice_eq_ok_iff.1 htakes.data).1
  have hahead : ∀ j ∈ items, span.stop + (delimiter c.boundary).length ≤ j.2.start :=
    fun j hj => htakes.offset_eq ▸ h.ahead j hj
  constructor
  · intro n
    cases n with
    | zero => exact congrArg Prod.fst hnext
    | succ n =>
        rw [answer_succ, hnext]
        exact h.answers n
  · have hle := h.length_le
    rw [htakes.parsed_eq, hsame.limit] at hle
    rw [List.length_cons]
    omega
  · exact List.forall_mem_cons.2 ⟨htakes.data, hsame.body ▸ h.data⟩
  · refine List.forall_mem_cons.2 ⟨htakes.offset_le, fun j hj => ?_⟩
    have hstart := hahead j hj
    have hoffset := htakes.offset_le
    omega
  · exact List.pairwise_cons.2 ⟨hahead, hsame.boundary ▸ h.apart⟩

/-- A cursor gives what the reader at the same place gives. -/
theorem exists_gives (h : Stands c r) (hin : c.Inside) :
    ∃ items mistake, c.Gives items mistake ∧
      r.results = items.map (fun i => .ok i.1) ++ (mistake.map .error).toList := by
  -- each call that gives a part leaves less ahead of the reader
  induction hn : r.ahead using Nat.strong_induction_on generalizing c r with
  | _ n ih =>
    obtain ⟨hsame, hinside, houtcome⟩ := next_cases h hin
    cases hc' : c.next with
    | mk a c' =>
    cases hr' : r.next with
    | mk b r' =>
    rw [hc'] at hsame hinside houtcome
    rw [hr'] at houtcome
    cases houtcome with
    | ended hc hr =>
        exact ⟨[], none, gives_nil hc' hc hin, PartReader.results_of_next_none hr'⟩
    | mistake e hc hr =>
        refine ⟨[], some e, gives_nil hc' hc hin, ?_⟩
        rw [PartReader.results_of_next hr',
          PartReader.results_of_next_none (PartReader.next_of_finished hr)]
        rfl
    | @part p span hstands htakes =>
        obtain ⟨items, mistake, hgives, hresults⟩ :=
          ih r'.ahead (hn ▸ PartReader.ahead_of_next hr') hstands hinside rfl
        refine ⟨(p, span) :: items, mistake, hgives.cons hc' hsame htakes, ?_⟩
        rw [PartReader.results_of_next hr', hresults]
        rfl

/-- Behind the end or a mistake there is nothing. -/
theorem Gives.answer_eq_none {items : List (Part × Span)} {mistake : Option FormError}
    (h : c.Gives items mistake) {m n : Nat} (hmn : m < n)
    (hm : answer next m c = none ∨ ∃ e, answer next m c = some (.error e)) :
    answer next n c = none := by
  have hle : items.length ≤ m := by
    cases hi : items[m]? with
    | none => exact List.getElem?_eq_none_iff.1 hi
    | some i =>
        have hlt : m < (items.map (Except.ok : _ → Except CursorStop _)).length := by
          rw [List.length_map]
          exact (List.getElem?_eq_some_iff.1 hi).1
        have hsome : answer next m c = some (.ok i) := by
          rw [h.answers, List.getElem?_append_left hlt, List.getElem?_map, hi]
          rfl
        rcases hm with hm | ⟨e, hm⟩ <;> simp [hm] at hsome
  rw [h.answers, List.getElem?_eq_none_iff, List.length_append, List.length_map]
  cases mistake with
  | none => exact Nat.le_of_lt (hle.trans_lt hmn)
  | some e => exact Nat.succ_le_of_lt (hle.trans_lt hmn)

/-- Whatever the boundary, the limit and the body are, no slice is out of range in any call of the
cursor: it gives the results of the reader, and with each part the slice that is its data. The
slices follow one another in the body. Every call that gives a part moves the cursor behind that
part and its delimiter, no call moves it past the end, and behind the end or a mistake there is
nothing. If the body has more parts than allowed, those that are allowed are given, and then the
mistake that there are more. -/
theorem reads_slices (boundary : Bytes) (limit : Nat) (body : Bytes) :
    let c : PartCursor := { boundary, limit, body }
    let r : PartReader := { boundary, limit, position := .start body }
    let place := fun n => (stateAfter next n c).offset
    ∃ items mistake, c.Gives items mistake ∧
      r.results = items.map (fun i => .ok i.1) ++ (mistake.map .error).toList ∧
      (∀ n, answer PartReader.next n r = r.results[n]?) ∧
      (∀ n, place n ≤ body.length ∧ (stateAfter next n c).parsed ≤ limit) ∧
      (∀ n p span, answer next n c = some (.ok (p, span)) →
        place n ≤ span.start ∧ span.start ≤ span.stop ∧
          span.stop + (delimiter boundary).length = place (n + 1)) ∧
      (∀ m n, m < n → (answer next m c = none ∨ ∃ e, answer next m c = some (.error e)) →
        answer next n c = none) ∧
      ∀ preamble rest ts padding more, Text.CutsAt (dashes ++ boundary) body preamble rest →
        Leading boundary ts rest (padding ++ (lineBreak ++ more)) →
        (∀ b ∈ padding, b = 32 ∨ b = 9) → ts.length = limit → (∀ t ∈ ts, t.Readable) →
          List.Forall₂ PartText.Describes ts (items.map Prod.fst) ∧ items.length = limit ∧
            mistake = some (.tooManyParts limit) := by
  intro c r place
  have hstands : Stands c r := .start rfl rfl
  have hin : c.Inside := ⟨Nat.zero_le _, Nat.zero_le _⟩
  obtain ⟨items, mistake, hgives, hresults⟩ := exists_gives hstands hin
  have hstates := stands_stateAfter hstands hin
  refine ⟨items, mistake, hgives, hresults, fun n => PartReader.answer_eq n r, fun n => ?_,
    fun n p span hp => ?_, fun m n hmn hm => hgives.answer_eq_none hmn hm,
    fun preamble rest ts padding more hcut hleading hpadding hlimit hreadable => ?_⟩
  · obtain ⟨-, hinside, hsame⟩ := hstates n
    exact ⟨hinside.offset_le.trans_eq (congrArg List.length hsame.body),
      hinside.parsed_le.trans_eq hsame.limit⟩
  · obtain ⟨hn, hinside, hsame⟩ := hstates n
    obtain ⟨-, -, houtcome⟩ := next_cases hn hinside
    change (stateAfter next n c).next.1 = _ at hp
    rw [hp] at houtcome
    generalize (stateAfter PartReader.next n r).next.1 = read at houtcome
    cases houtcome with
    | part _ htakes =>
        have hplace : place (n + 1) = (stateAfter next n c).next.2.offset :=
          congrArg offset (stateAfter_succ next n c)
        rw [hplace, htakes.offset_eq, hsame.boundary]
        exact ⟨htakes.offset_le, (slice_eq_ok_iff.1 htakes.data).1, rfl⟩
  · obtain ⟨parts, hparts⟩ := forall_readable_iff.1 hreadable
    have hread := PartReader.results_of_leading hcut hleading hlimit hparts hpadding
    have heq : (items.map Prod.fst).map Except.ok ++ (mistake.map Except.error).toList =
        parts.map Except.ok ++ [Except.error (.tooManyParts limit)] := by
      rw [List.map_map]
      exact hresults.symm.trans hread
    obtain ⟨hitems, hmistake⟩ := eq_of_map_ok_append heq
    have hlength : items.length = limit := by
      rw [← hlimit, hparts.length_eq, ← hitems, List.length_map]
    exact ⟨hitems ▸ hparts, hlength, hmistake⟩

/-- The text of a field, before what another field begins with. -/
def firstField : PartText where
  padding := []
  headers := Utf8.encode "Content-Disposition: form-data; name=\"x\""
  data := Utf8.encode "1"

theorem reads_slices_first_field :
    let body := Utf8.encode "--b" ++ firstField.written (Utf8.encode "b") (lineBreak ++ [])
    let c : PartCursor := { boundary := Utf8.encode "b", limit := 1, body }
    ∃ p span, (∀ n, answer next n c = [.ok (p, span), .error (.mistake (.tooManyParts 1))][n]?) ∧
      p.data = Utf8.encode "1" := by
  intro body c
  let tail : Bytes := lineBreak ++ []
  have hheaders : Text.cut? (lineBreak ++ lineBreak) (firstField.block (Utf8.encode "b") tail) =
      some (firstField.headers, firstField.content (Utf8.encode "b") tail) := by
    decide +kernel
  have hdata : Text.cut? (delimiter (Utf8.encode "b")) (firstField.content (Utf8.encode "b") tail) =
      some (firstField.data, tail) := by
    decide +kernel
  have hdelimited : firstField.Delimited (Utf8.encode "b") tail :=
    ⟨by rintro b ⟨⟩, by decide, Text.cutsAt_of_cut? hheaders, Text.cutsAt_of_cut? hdata⟩
  have hread : (headers firstField.headers).bind (part · firstField.data) = .ok
      { name := "x", fileName := none, contentType := MediaType.plainText,
        headers := [("Content-Disposition", "form-data; name=\"x\"")],
        data := Utf8.encode "1" } := by
    decide +kernel
  have hreadable : firstField.Readable :=
    readable_iff.2 ⟨_, describes_iff.2 (bind_eq_ok_iff.1 hread)⟩
  obtain ⟨items, mistake, hgives, -, -, -, -, -, hmore⟩ :=
    reads_slices (Utf8.encode "b") 1 body
  obtain ⟨hparts, hlength, rfl⟩ := hmore [] _ [firstField] [] [] (Text.CutsAt.nil _ _)
    (.part hdelimited (.none _)) (by simp) rfl (by simpa using hreadable)
  obtain ⟨⟨p, span⟩, rfl⟩ := List.length_eq_one_iff.1 hlength
  obtain ⟨hdescribes, -⟩ := List.forall₂_cons.1 hparts
  exact ⟨p, span, hgives.answers, hdescribes.data⟩

end PartCursor

end ServiceDispatch
