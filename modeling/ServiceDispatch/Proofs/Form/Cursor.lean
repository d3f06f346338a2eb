import ServiceDispatch.Proofs.Form.PartLayout

/-!
# Reading a multipart body by offsets

A `PartReader` keeps what is left of a body. A `PartCursor` keeps the whole body and the place
behind the last boundary, and computes every further place from searches in slices of the body.
Each slice is checked: one that does not lie within the bytes is `CursorStop.outOfRange`, which no
mistake in a body is.

The two do the same. `Follows` compares a step on offsets with a step on what is left, and nothing
follows from a slice out of range. There is one lemma for each stage, then `next_cases` says all
that a call can do to a cursor and the reader at the same place, and where it leaves the cursor.
-/

namespace ServiceDispatch

open Multipart

/-- Why a step on offsets gives no result. -/
inductive CursorStop where
  | outOfRange
  | mistake (e : FormError)
  deriving DecidableEq, Repr

/-- The places from `start` up to `stop`. -/
structure Span where
  start : Nat
  stop : Nat
  deriving DecidableEq, Repr

namespace Offsets

/-- The bytes at the places of a span, which have to be there. -/
def slice (s : Bytes) (span : Span) : Except CursorStop Bytes :=
  if span.start ≤ span.stop ∧ span.stop ≤ s.length then
    .ok ((s.take span.stop).drop span.start)
  else .error .outOfRange

/-- The bytes from a place on. -/
def suffix (s : Bytes) (start : Nat) : Except CursorStop Bytes := slice s ⟨start, s.length⟩

/-- A mistake, if the step makes one. -/
def reported {α : Type} (x : Except FormError α) : Except CursorStop α := x.mapError .mistake

/-- The place where `sep` first occurs. -/
def find (sep s : Bytes) (fault : FormFault) : Except CursorStop Nat :=
  match Text.cut? sep s with
  | some (before, _) => .ok before.length
  | none => .error (.mistake (.malformed fault))

/-- The place behind the line that a boundary stands on. -/
def lineEnd (body : Bytes) (pos : Nat) : Except CursorStop Nat := do
  let rest ← suffix body pos
  let stop ← find lineBreak rest .boundaryLineOpen
  let padding ← slice rest ⟨0, stop⟩
  if padding.all fun b => b == 32 || b == 9 then .ok (pos + stop + 2)
  else .error (.mistake (.malformed .dataAfterBoundary))

/-- Where the header block of a part stands, and the place where its data begins. -/
def headerBlock (body : Bytes) (pos : Nat) : Except CursorStop (Span × Nat) := do
  let rest ← suffix body pos
  if lineBreak.isPrefixOf rest then .ok (⟨pos, pos⟩, pos + 2)
  else do
    let stop ← find (lineBreak ++ lineBreak) rest .headersOpen
    .ok (⟨pos, pos + stop⟩, pos + stop + 4)

/-- Where the data of a part stands. -/
def dataBlock (boundary body : Bytes) (start : Nat) : Except CursorStop Span := do
  let content ← suffix body start
  let stop ← find (delimiter boundary) content .partOpen
  .ok ⟨start, start + stop⟩

end Offsets

open Offsets

/-- Reads the parts of a body one by one, by offsets. -/
structure PartCursor where
  boundary : Bytes
  limit : Nat
  body : Bytes
  /-- The place behind the last boundary that was seen. -/
  pos : Option Nat := none
  parsed : Nat := 0
  finished : Bool := false
  deriving DecidableEq, Repr

namespace PartCursor

/-- How far the body has been read. -/
def offset (c : PartCursor) : Nat := c.pos.getD 0

/-- The place behind the last boundary; the first one need not stand on a line of its own. -/
def opened (c : PartCursor) : Except CursorStop Nat :=
  match c.pos with
  | some pos => .ok pos
  | none => do
    let opening ← suffix (delimiter c.boundary) 2
    let start ← find opening c.body .noOpeningBoundary
    .ok (start + opening.length)

/-- The headers of the next part, and where its data stands. -/
def locate (c : PartCursor) : Except CursorStop (Option (List (String × String) × Span)) := do
  let pos ← c.opened
  let rest ← suffix c.body pos
  if dashes.isPrefixOf rest then .ok none
  else do
    let pos ← lineEnd c.body pos
    if c.limit ≤ c.parsed then .error (.mistake (.tooManyParts c.limit))
    else do
      let (span, start) ← headerBlock c.body pos
      let block ← slice c.body span
      let hs ← reported (headers block)
      let span ← dataBlock c.boundary c.body start
      .ok (some (hs, span))

/-- The next part, and where its data stands. -/
def advance (c : PartCursor) : Except CursorStop (Option (Part × Span)) := do
  match ← c.locate with
  | none => .ok none
  | some (hs, span) =>
    let data ← slice c.body span
    let p ← reported (part hs data)
    .ok (some (p, span))

/-- The cursor behind the part that it locates, whether or not the headers name a field. -/
def moved (c : PartCursor) : PartCursor :=
  match c.locate with
  | .ok (some (_, span)) =>
    { c with pos := some (span.stop + (delimiter c.boundary).length), parsed := c.parsed + 1 }
  | _ => c

/-- The cursor that gives nothing more. -/
def close (c : PartCursor) : PartCursor := { c with finished := true }

/-- The next part or mistake, `none` at the end. -/
def next (c : PartCursor) : Option (Except CursorStop (Part × Span)) × PartCursor :=
  if c.finished then (none, c)
  else match c.advance with
    | .ok (some i) => (some (.ok i), c.moved)
    | .ok none => (none, c.moved.close)
    | .error e => (some (.error e), c.moved.close)

end PartCursor

/-! ### Offsets and what is left -/

namespace Offsets

/-- `rest` is what is left of the body from the given place on. -/
def At (body : Bytes) (pos : Nat) (rest : Bytes) : Prop :=
  ∃ passed, body = passed ++ rest ∧ pos = passed.length

namespace At

variable {body rest : Bytes} {pos : Nat}

theorem zero (body : Bytes) : At body 0 body := ⟨[], rfl, rfl⟩

theorem add_length (h : At body pos rest) : pos + rest.length = body.length := by
  obtain ⟨passed, rfl, rfl⟩ := h
  rw [List.length_append]

theorem append {before after : Bytes} (h : At body pos (before ++ after)) :
    At body (pos + before.length) after := by
  obtain ⟨passed, rfl, rfl⟩ := h
  exact ⟨passed ++ before, by rw [List.append_assoc], by rw [List.length_append]⟩

theorem slice_eq {before after : Bytes} (h : At body pos (before ++ after)) :
    slice body ⟨pos, pos + before.length⟩ = .ok before := by
  obtain ⟨passed, rfl, rfl⟩ := h
  have hrange : passed.length ≤ passed.length + before.length ∧
      passed.length + before.length ≤ (passed ++ (before ++ after)).length := by
    simp only [List.length_append]
    omega
  rw [slice, if_pos hrange, ← List.append_assoc, ← List.length_append, List.take_left,
    List.drop_left]

theorem suffix_eq (h : At body pos rest) : suffix body pos = .ok rest := by
  have hall : At body pos (rest ++ []) := by rwa [List.append_nil]
  rw [suffix, ← h.add_length]
  exact hall.slice_eq

end At

theorem slice_eq_ok_iff {s t : Bytes} {span : Span} :
    slice s span = .ok t ↔
      span.start ≤ span.stop ∧ span.stop ≤ s.length ∧ (s.take span.stop).drop span.start = t := by
  rw [slice]
  split
  · next h => simp [h.1, h.2]
  · next h => exact iff_of_false (by simp) fun h' => h ⟨h'.1, h'.2.1⟩

variable {α α' β β' : Type}

/-- A step on offsets gives what a step on the rest of the body gives, with the same mistakes. -/
inductive Follows (R : α → β → Prop) : Except CursorStop α → Except FormError β → Prop where
  | ok {a : α} {b : β} (h : R a b) : Follows R (.ok a) (.ok b)
  | mistake (e : FormError) : Follows R (.error (.mistake e)) (.error e)

theorem Follows.bind {R : α → β → Prop} {S : α' → β' → Prop} {x : Except CursorStop α}
    {y : Except FormError β} {f : α → Except CursorStop α'} {g : β → Except FormError β'}
    (h : Follows R x y) (hfg : ∀ a b, R a b → Follows S (f a) (g b)) :
    Follows S (x >>= f) (y >>= g) := by
  cases h with
  | ok h => exact hfg _ _ h
  | mistake e => exact .mistake e

theorem Follows.reported (x : Except FormError α) : Follows (· = ·) (Offsets.reported x) x := by
  cases x with
  | ok a => exact .ok rfl
  | error e => exact .mistake e

/-! ### The stages -/

theorem find_of_cut? {sep s before after : Bytes} (h : Text.cut? sep s = some (before, after))
    (fault : FormFault) : find sep s fault = .ok before.length := by
  rw [find, h]

theorem find_of_cut?_none {sep s : Bytes} (h : Text.cut? sep s = none) (fault : FormFault) :
    find sep s fault = .error (.mistake (.malformed fault)) := by
  rw [find, h]

variable {boundary body rest : Bytes} {pos : Nat}

theorem lineEnd_follows (h : At body pos rest) :
    Follows (fun pos' more => At body pos' more ∧ pos ≤ pos') (lineEnd body pos)
      (afterBoundaryLine rest) := by
  rw [lineEnd, h.suffix_eq, afterBoundaryLine]
  cases hcut : Text.cut? lineBreak rest with
  | none =>
      simp only [bind, Except.bind, find_of_cut?_none hcut]
      exact .mistake _
  | some c =>
      obtain ⟨padding, more⟩ := c
      obtain rfl := (Text.cutsAt_of_cut? hcut).eq_append
      have hslice := (At.zero (padding ++ (lineBreak ++ more))).slice_eq
      rw [Nat.zero_add] at hslice
      simp only [bind, Except.bind, find_of_cut? hcut, hslice]
      split
      · exact .ok ⟨h.append.append, by omega⟩
      · exact .mistake _

theorem headerBlock_follows (h : At body pos rest) :
    Follows (fun a b => slice body a.1 = .ok b.1 ∧ At body a.2 b.2 ∧ pos ≤ a.2)
      (headerBlock body pos) (splitHeaders rest) := by
  rw [headerBlock, h.suffix_eq, splitHeaders]
  simp only [bind, Except.bind]
  split
  · next hpre =>
    obtain ⟨content, rfl⟩ := List.isPrefixOf_iff_prefix.1 hpre
    have hnil : At body pos ([] ++ (lineBreak ++ content)) := h
    rw [List.drop_left]
    exact .ok ⟨hnil.slice_eq, h.append, by omega⟩
  · cases hcut : Text.cut? (lineBreak ++ lineBreak) rest with
    | none =>
        rw [find_of_cut?_none hcut]
        exact .mistake _
    | some c =>
        obtain ⟨block, content⟩ := c
        obtain rfl := (Text.cutsAt_of_cut? hcut).eq_append
        rw [find_of_cut? hcut]
        exact .ok ⟨h.slice_eq, h.append.append, by omega⟩

theorem dataBlock_follows (h : At body pos rest) :
    Follows (fun span b => slice body span = .ok b.1 ∧
        At body (span.stop + (delimiter boundary).length) b.2 ∧ pos ≤ span.start)
      (dataBlock boundary body pos) (splitData boundary rest) := by
  rw [dataBlock, h.suffix_eq, splitData]
  simp only [bind, Except.bind]
  cases hcut : Text.cut? (delimiter boundary) rest with
  | none =>
      rw [find_of_cut?_none hcut]
      exact .mistake _
  | some c =>
      obtain ⟨data, rest'⟩ := c
      obtain rfl := (Text.cutsAt_of_cut? hcut).eq_append
      rw [find_of_cut? hcut]
      exact .ok ⟨h.slice_eq, h.append.append, le_rfl⟩

/-- What `nextPart` has read before it asks for the name of the field: the headers and the data of
the part, and what follows. -/
def located (boundary : Bytes) (limit parsed : Nat) (rest : Bytes) :
    Except FormError (Option (List (String × String) × Bytes × Bytes)) :=
  if dashes.isPrefixOf rest then .ok none
  else do
    let rest ← afterBoundaryLine rest
    if limit ≤ parsed then .error (.tooManyParts limit)
    else do
      let (block, content) ← splitHeaders rest
      let hs ← headers block
      let (data, rest) ← splitData boundary content
      .ok (some (hs, data, rest))

theorem nextPart_eq (boundary : Bytes) (limit parsed : Nat) (rest : Bytes) :
    nextPart boundary limit parsed rest =
      located boundary limit parsed rest >>= fun o =>
        match o with
        | none => .ok none
        | some (hs, data, rest') => (part hs data).map fun p => some (p, rest') := by
  rw [nextPart, located]
  split
  · rfl
  · rw [bind_assoc]
    congr 1
    funext more
    split
    · rfl
    · simp only [bind_assoc]
      congr 1

end Offsets

namespace PartReader

theorem next_of_finished {r : PartReader} (hr : r.position = .finished) :
    r.next = (none, r) := by
  rw [next, hr]

theorem next_of_not_finished {r : PartReader} (hr : r.position ≠ .finished) :
    r.next = match r.rest >>= nextPart r.boundary r.limit r.parsed with
      | .ok (some (p, rest)) =>
        (some (.ok p), { r with position := .after rest, parsed := r.parsed + 1 })
      | .ok none => (none, r.close)
      | .error e => (some (.error e), r.close) := by
  rw [next]
  cases h : r.position with
  | finished => exact absurd h hr
  | start body => rfl
  | after rest => rfl

/-- A call that has located a part gives it if its headers name a field. -/
theorem next_eq {r : PartReader} (hr : r.position ≠ .finished) :
    r.next = match r.rest >>= located r.boundary r.limit r.parsed with
      | .ok (some (hs, data, rest)) =>
        match part hs data with
        | .ok p => (some (.ok p), { r with position := .after rest, parsed := r.parsed + 1 })
        | .error e => (some (.error e), r.close)
      | .ok none => (none, r.close)
      | .error e => (some (.error e), r.close) := by
  rw [next_of_not_finished hr, funext (nextPart_eq r.boundary r.limit r.parsed), ← bind_assoc]
  cases r.rest >>= located r.boundary r.limit r.parsed with
  | error e => rfl
  | ok o =>
      cases o with
      | none => rfl
      | some found =>
          obtain ⟨hs, data, rest⟩ := found
          simp only [bind, Except.bind]
          cases part hs data <;> rfl

end PartReader

namespace PartCursor

/-- The reader of the same form at a position. -/
def reader (c : PartCursor) (position : PartPosition) : PartReader :=
  { boundary := c.boundary, limit := c.limit, position, parsed := c.parsed }

/-- The cursor and the reader are at the same place of a body. -/
inductive Stands (c : PartCursor) : PartReader → Prop where
  | start (hc : c.finished = false) (hpos : c.pos = none) : Stands c (c.reader (.start c.body))
  | after (hc : c.finished = false) {pos : Nat} {rest : Bytes} (hpos : c.pos = some pos)
      (h : At c.body pos rest) : Stands c (c.reader (.after rest))
  | finished {r : PartReader} (hc : c.finished = true) (hr : r.position = .finished) : Stands c r

theorem Stands.exists_reader {c : PartCursor} {r : PartReader} (h : Stands c r)
    (hc : c.finished = false) : ∃ position, position ≠ .finished ∧ r = c.reader position := by
  cases h with
  | start => exact ⟨_, by simp, rfl⟩
  | after => exact ⟨_, by simp, rfl⟩
  | finished hc' => simp [hc] at hc'

theorem Stands.position_eq {c : PartCursor} {r : PartReader} (h : Stands c r)
    (hc : c.finished = true) : r.position = .finished := by
  cases h with
  | start hc' => simp [hc] at hc'
  | after hc' => simp [hc] at hc'
  | finished _ hr => exact hr

/-- The place of a part: its headers, the slice of its data, and what follows its boundary. -/
structure Locates (c : PartCursor) (found : List (String × String) × Span)
    (hs : List (String × String)) (data rest : Bytes) : Prop where
  headers : found.1 = hs
  data : slice c.body found.2 = .ok data
  rest : At c.body (found.2.stop + (delimiter c.boundary).length) rest
  offset_le : c.offset ≤ found.2.start
  parsed_lt : c.parsed < c.limit

theorem opened_follows {c : PartCursor} {r : PartReader} (h : Stands c r)
    (hc : c.finished = false) :
    Follows (fun pos rest => At c.body pos rest ∧ c.offset ≤ pos) c.opened r.rest := by
  cases h with
  | start _ hpos =>
      have hopening : suffix (delimiter c.boundary) 2 = .ok (dashes ++ c.boundary) :=
        (At.zero (delimiter c.boundary)).append.suffix_eq
      simp only [opened, offset, hpos, hopening, bind, Except.bind, reader, PartReader.rest,
        afterOpening]
      cases hcut : Text.cut? (dashes ++ c.boundary) c.body with
      | none =>
          rw [find_of_cut?_none hcut]
          exact .mistake _
      | some p =>
          obtain ⟨preamble, rest⟩ := p
          have hbody : At c.body 0 (preamble ++ (dashes ++ c.boundary ++ rest)) := by
            rw [← (Text.cutsAt_of_cut? hcut).eq_append]
            exact At.zero c.body
          have hrest := hbody.append.append
          rw [Nat.zero_add] at hrest
          rw [find_of_cut? hcut]
          exact .ok ⟨hrest, Nat.zero_le _⟩
  | after _ hpos h =>
      rw [opened, offset, hpos]
      exact .ok ⟨h, le_rfl⟩
  | finished hc' => simp [hc] at hc'

theorem locate_follows {c : PartCursor} {r : PartReader} (h : Stands c r)
    (hc : c.finished = false) :
    Follows (Option.Rel fun found b => Locates c found b.1 b.2.1 b.2.2) c.locate
      (r.rest >>= located r.boundary r.limit r.parsed) := by
  obtain ⟨position, -, rfl⟩ := h.exists_reader hc
  change Follows _ _ (_ >>= located c.boundary c.limit c.parsed)
  -- both chains take the same steps, so the first of each is compared and then what follows it
  refine (opened_follows h hc).bind fun pos rest ⟨hrest, hpos⟩ => ?_
  rw [hrest.suffix_eq, located]
  change Follows _ (if dashes.isPrefixOf rest then _ else _) _
  split
  · exact .ok .none
  · refine (lineEnd_follows hrest).bind fun pos' more ⟨hmore, hpos'⟩ => ?_
    split
    · exact .mistake _
    · next hlimit =>
      refine (headerBlock_follows hmore).bind ?_
      rintro ⟨span, start⟩ ⟨block, content⟩ ⟨hblock, hcontent, hstart⟩
      dsimp only at hblock hcontent hstart ⊢
      rw [hblock]
      refine (Follows.reported (headers block)).bind ?_
      rintro hs _ rfl
      refine (dataBlock_follows hcontent).bind ?_
      rintro span' ⟨data, rest'⟩ ⟨hdata, hrest', hspan⟩
      exact .ok (.some ⟨rfl, hdata, hrest', by dsimp only; omega, Nat.not_le.1 hlimit⟩)

/-! ### One call -/

/-- What a call that gives a part does to the cursor. -/
structure Takes (c c' : PartCursor) (p : Part) (span : Span) : Prop where
  data : slice c.body span = .ok p.data
  offset_le : c.offset ≤ span.start
  offset_eq : c'.offset = span.stop + (delimiter c.boundary).length
  parsed_lt : c.parsed < c.limit
  parsed_eq : c'.parsed = c.parsed + 1

/-- Not past the end of the body, and not over the limit on parts. -/
structure Inside (c : PartCursor) : Prop where
  offset_le : c.offset ≤ c.body.length
  parsed_le : c.parsed ≤ c.limit

/-- The body and what it is read by stay. -/
structure Same (c c' : PartCursor) : Prop where
  boundary : c'.boundary = c.boundary
  limit : c'.limit = c.limit
  body : c'.body = c.body

/-- What a call gives, and in what state it leaves a cursor and the reader at the same place. -/
inductive Outcome (c c' : PartCursor) (r' : PartReader) :
    Option (Except CursorStop (Part × Span)) → Option (Except FormError Part) → Prop where
  | ended (hc : c'.finished = true) (hr : r'.position = .finished) : Outcome c c' r' none none
  | mistake (e : FormError) (hc : c'.finished = true) (hr : r'.position = .finished) :
    Outcome c c' r' (some (.error (.mistake e))) (some (.error e))
  | part {p : Part} {span : Span} (h : Stands c' r') (takes : c.Takes c' p span) :
    Outcome c c' r' (some (.ok (p, span))) (some (.ok p))

theorem next_of_finished {c : PartCursor} (hc : c.finished = true) : c.next = (none, c) := by
  rw [next, hc]
  rfl

theorem next_of_not_finished {c : PartCursor} (hc : c.finished = false) :
    c.next = match c.advance with
      | .ok (some i) => (some (.ok i), c.moved)
      | .ok none => (none, c.moved.close)
      | .error e => (some (.error e), c.moved.close) := by
  rw [next, hc]
  rfl

theorem advance_of_locate {c : PartCursor} {hs : List (String × String)} {span : Span}
    {data : Bytes} (h : c.locate = .ok (some (hs, span))) (hdata : slice c.body span = .ok data) :
    c.advance = (reported (part hs data)).map fun p => some (p, span) := by
  rw [advance, h]
  simp only [bind, Except.bind, hdata]
  cases reported (part hs data) <;> rfl

theorem moved_of_locate {c : PartCursor} {hs : List (String × String)} {span : Span}
    (h : c.locate = .ok (some (hs, span))) :
    c.moved = { c with
      pos := some (span.stop + (delimiter c.boundary).length), parsed := c.parsed + 1 } := by
  rw [moved, h]

/-- The cursor is moved behind the part that it locates, and no further than the body goes. -/
theorem Locates.inside {c : PartCursor} {found : List (String × String) × Span}
    {hs : List (String × String)} {data rest : Bytes} (h : c.Locates found hs data rest)
    (hfound : c.locate = .ok (some found)) : c.moved.Inside := by
  rw [moved, hfound]
  have hlength := h.rest.add_length
  refine ⟨?_, h.parsed_lt⟩
  dsimp only [offset, Option.getD_some]
  omega

theorem same_moved (c : PartCursor) : c.Same c.moved := by
  rw [moved]
  split <;> exact ⟨rfl, rfl, rfl⟩

theorem Inside.close {c : PartCursor} (h : c.Inside) : c.close.Inside := ⟨h.1, h.2⟩

theorem Same.close {c c' : PartCursor} (h : c.Same c') : c.Same c'.close := ⟨h.1, h.2, h.3⟩

/-- A call does the same to a cursor and the reader at the same place: both come to the end, or
meet the same mistake, or give the same part. -/
theorem next_cases {c : PartCursor} {r : PartReader} (h : Stands c r) (hin : c.Inside) :
    c.Same c.next.2 ∧ c.next.2.Inside ∧ Outcome c c.next.2 r.next.2 c.next.1 r.next.1 := by
  cases hc : c.finished with
  | true =>
      have hr := h.position_eq hc
      rw [next_of_finished hc, PartReader.next_of_finished hr]
      exact ⟨⟨rfl, rfl, rfl⟩, hin, .ended hc hr⟩
  | false =>
      obtain ⟨position, hposition, rfl⟩ := h.exists_reader hc
      have hfollows := locate_follows h hc
      rw [next_of_not_finished hc, PartReader.next_eq hposition]
      generalize hlocate : c.locate = located at hfollows
      generalize hread : (c.reader position).rest >>= Offsets.located (c.reader position).boundary
        (c.reader position).limit (c.reader position).parsed = read at hfollows
      cases hfollows with
      | mistake e =>
          have hmoved : c.moved = c := by rw [moved, hlocate]
          have hadvance : c.advance = .error (.mistake e) := by
            rw [advance, hlocate]
            rfl
          rw [hadvance, hmoved]
          exact ⟨⟨rfl, rfl, rfl⟩, hin.close, .mistake e rfl rfl⟩
      | ok hfound =>
          cases hfound with
          | none =>
              have hmoved : c.moved = c := by rw [moved, hlocate]
              have hadvance : c.advance = .ok none := by
                rw [advance, hlocate]
                rfl
              rw [hadvance, hmoved]
              exact ⟨⟨rfl, rfl, rfl⟩, hin.close, .ended rfl rfl⟩
          | @some found b hfound =>
              obtain ⟨hs, data, rest⟩ := b
              have hinside := hfound.inside hlocate
              obtain ⟨rfl, hdata, hrest, hoffset, hparsed⟩ := hfound
              obtain ⟨hs, span⟩ := found
              have hadvance := advance_of_locate hlocate hdata
              have hmoved := moved_of_locate hlocate
              have hsame := c.same_moved
              dsimp only
              -- the cursor is behind the part already when its field turns out to have no name
              cases hpart : part hs data with
              | error e =>
                  rw [hadvance, hpart]
                  exact ⟨hsame.close, hinside.close, .mistake e rfl rfl⟩
              | ok p =>
                  obtain ⟨-, -, -, -, hpdata⟩ := part_eq_ok_iff.1 hpart
                  have hstands : Stands c.moved (c.moved.reader (.after rest)) := by
                    rw [hmoved]
                    refine .after ?_ rfl ?_
                    · exact hc
                    · exact hrest
                  have hreader : c.moved.reader (.after rest) =
                      { c.reader position with
                        position := .after rest, parsed := c.parsed + 1 } := by
                    rw [hmoved]
                    rfl
                  have htakes : c.Takes c.moved p span := by
                    rw [hmoved]
                    exact ⟨hpdata ▸ hdata, hoffset, rfl, hparsed, rfl⟩
                  rw [hadvance, hpart]
                  exact ⟨hsame, hinside, .part (hreader ▸ hstands) htakes⟩

end PartCursor

end ServiceDispatch
