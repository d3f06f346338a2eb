import ServiceDispatch.Http.Response
import Mathlib.Data.List.Basic

/-!
# Calls of a chunk stream

Whoever holds a chunk stream writes to the same one, so what is done to it through all its holders
is one list of calls. Each call has an event for its outcome. Finishing a stream cannot be undone,
and a chunk is refused exactly behind it (`step_send`). What has been taken out and what is
buffered together are the accepted chunks in order (`body_append_accepted`): one call keeps that
balance (`balance_step`), and so does any list of calls.
-/

namespace ServiceDispatch.ChunkStream

inductive Call where
  | setContentType (contentType : String)
  | send (chunk : Bytes)
  | finish
  | take
  deriving DecidableEq, Repr

/-- What comes of a call. -/
inductive Event where
  | described
  | accepted (chunk : Bytes)
  | refused
  | finished
  | taken (body : Bytes)
  deriving DecidableEq, Repr

/-- The content type that a call sets. -/
def Call.contentType? : Call → Option String
  | .setContentType contentType => some contentType
  | _ => none

namespace Event

def accepted? : Event → Option Bytes
  | accepted chunk => some chunk
  | _ => none

def taken? : Event → Option Bytes
  | taken body => some body
  | _ => none

end Event

/-- One call; a chunk that is refused leaves the stream as it is. -/
def step (s : ChunkStream) : Call → Event × ChunkStream
  | .setContentType contentType => (.described, s.setContentType contentType)
  | .send chunk => match s.send? chunk with
    | some s' => (.accepted chunk, s')
    | none => (.refused, s)
  | .finish => (.finished, s.finish)
  | .take => (.taken s.takeBody.1, s.takeBody.2)

/-- The stream after some calls. -/
def after (s : ChunkStream) : List Call → ChunkStream
  | [] => s
  | c :: calls => after (s.step c).2 calls

/-- The events of some calls. -/
def events (s : ChunkStream) : List Call → List Event
  | [] => []
  | c :: calls => (s.step c).1 :: events (s.step c).2 calls

/-- The chunks that were accepted, in order. -/
def accepted (es : List Event) : List Bytes := es.filterMap Event.accepted?

/-- The bodies that were taken out, in order. -/
def taken (es : List Event) : List Bytes := es.filterMap Event.taken?

/-! ### One call -/

theorem step_send (s : ChunkStream) (chunk : Bytes) :
    s.step (.send chunk) =
      if s.finished then (.refused, s)
      else (.accepted chunk, { s with chunks := s.chunks ++ [chunk] }) := by
  rw [step, send?]
  by_cases h : s.finished = true
  · rw [if_pos h, if_pos h]
  · rw [if_neg h, if_neg h]

theorem finished_step (s : ChunkStream) (c : Call) :
    (s.step c).2.finished = (s.finished || c == .finish) := by
  cases c with
  | setContentType contentType => exact (Bool.or_false _).symm
  | send chunk =>
      rw [step_send]
      split <;> exact (Bool.or_false _).symm
  | finish => exact (Bool.or_true _).symm
  | take => exact (Bool.or_false _).symm

theorem contentType_step (s : ChunkStream) (c : Call) :
    (s.step c).2.contentType = c.contentType?.or s.contentType := by
  cases c with
  | send chunk =>
      rw [step_send]
      split <;> rfl
  | _ => rfl

/-- A call that takes nothing out adds the chunk that it gets accepted, if any. -/
theorem chunks_step (s : ChunkStream) {c : Call} (hc : c ≠ .take) :
    (s.step c).2.chunks = s.chunks ++ (s.step c).1.accepted?.toList := by
  cases c with
  | send chunk =>
      rw [step_send]
      split
      · exact (List.append_nil _).symm
      · rfl
  | take => exact absurd rfl hc
  | _ => exact (List.append_nil _).symm

/-- What a call takes out and leaves is what was there and what it gets accepted. -/
theorem balance_step (s : ChunkStream) (c : Call) :
    s.body ++ (s.step c).1.accepted?.toList.flatten =
      (s.step c).1.taken?.toList.flatten ++ (s.step c).2.body := by
  by_cases hc : c = .take
  · subst hc
    simp [step, takeBody, body, Event.accepted?, Event.taken?]
  · have htaken : (s.step c).1.taken? = none := by
      cases c with
      | send chunk =>
          rw [step_send]
          split <;> rfl
      | take => exact absurd rfl hc
      | _ => rfl
    rw [htaken, body, body, chunks_step s hc, List.flatten_append]
    rfl

/-! ### Any calls -/

theorem finished_after (s : ChunkStream) (calls : List Call) :
    (s.after calls).finished = true ↔ s.finished = true ∨ .finish ∈ calls := by
  induction calls generalizing s with
  | nil => simp [after]
  | cons c calls ih =>
      rw [after, ih, finished_step, Bool.or_eq_true, beq_iff_eq, or_assoc, List.mem_cons,
        eq_comm (a := c)]

theorem contentType_after (s : ChunkStream) (calls : List Call) :
    (s.after calls).contentType =
      (calls.filterMap Call.contentType?).getLast?.or s.contentType := by
  induction calls generalizing s with
  | nil => rfl
  | cons c calls ih =>
      rw [after, ih, contentType_step, List.filterMap_cons]
      cases c.contentType? with
      | none => rfl
      | some contentType =>
          rw [List.getLast?_cons]
          cases (calls.filterMap Call.contentType?).getLast? <;> rfl

theorem accepted_cons (e : Event) (es : List Event) :
    accepted (e :: es) = e.accepted?.toList ++ accepted es := by
  rw [accepted, List.filterMap_cons, accepted]
  cases e.accepted? <;> rfl

theorem taken_cons (e : Event) (es : List Event) :
    taken (e :: es) = e.taken?.toList ++ taken es := by
  rw [taken, List.filterMap_cons, taken]
  cases e.taken? <;> rfl

/-- What was there and what was accepted is what was taken out and what is there. -/
theorem body_append_accepted (s : ChunkStream) (calls : List Call) :
    s.body ++ (accepted (s.events calls)).flatten =
      (taken (s.events calls)).flatten ++ (s.after calls).body := by
  induction calls generalizing s with
  | nil => exact List.append_nil _
  | cons c calls ih =>
      rw [events, after, accepted_cons, taken_cons, List.flatten_append, List.flatten_append,
        ← List.append_assoc, balance_step, List.append_assoc, ih, List.append_assoc]

/-- Where nothing is taken out all accepted chunks are there. -/
theorem chunks_after (s : ChunkStream) {calls : List Call} (h : .take ∉ calls) :
    (s.after calls).chunks = s.chunks ++ accepted (s.events calls) := by
  induction calls generalizing s with
  | nil => exact (List.append_nil _).symm
  | cons c calls ih =>
      rw [List.mem_cons, not_or] at h
      rw [events, after, ih _ h.2, chunks_step s (Ne.symm h.1), accepted_cons, List.append_assoc]

end ServiceDispatch.ChunkStream
