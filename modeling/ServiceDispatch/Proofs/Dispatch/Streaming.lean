import ServiceDispatch.Proofs.Binding.Independence
import ServiceDispatch.Proofs.Dispatch.Reply
import ServiceDispatch.Proofs.Http.ChunkStream

/-!
# Streamed answers

A handler that takes the chunk stream and replies nothing is answered with what it streamed, if it
got a chunk accepted or finished the stream, and else with what the sink holds. Whether the stream
was asked for is kept by binding: one parameter adds itself (`streaming_bindParameter`), so after
all of them it is known whether there was one.
-/

namespace ServiceDispatch

namespace Dispatch

open ChunkStream (Call)

variable {σ : Type}

theorem isUsed_after {calls : List Call} (htake : .take ∉ calls) :
    (({} : ChunkStream).after calls).isUsed = true ↔
      ChunkStream.accepted (({} : ChunkStream).events calls) ≠ [] ∨ .finish ∈ calls := by
  rw [ChunkStream.isUsed, Bool.or_eq_true, ChunkStream.finished_after,
    ChunkStream.chunks_after _ htake, List.nil_append]
  cases ChunkStream.accepted (({} : ChunkStream).events calls) <;> simp

/-- The headers with the content type that was set last, if it can stand in a header. -/
def streamedHeaders (headers : Headers) (calls : List Call) : Headers :=
  let described := (calls.filterMap Call.contentType?).getLast?.map Utf8.encode
  match described.filter Header.isValue with
  | some value => headers.insert Response.contentTypeName value
  | none => headers

/-- What is made of a stream that was written to by some calls. -/
theorem streamed_after (sink : Sink) {calls : List Call} (htake : .take ∉ calls) :
    streamed sink (({} : ChunkStream).after calls) =
      ⟨sink.status, streamedHeaders sink.headers calls,
        (ChunkStream.accepted (({} : ChunkStream).events calls)).flatten⟩ := by
  have htype : (({} : ChunkStream).after calls).contentType =
      (calls.filterMap Call.contentType?).getLast? := by
    rw [ChunkStream.contentType_after, Option.or_none]
  rw [streamed, htype, ChunkStream.body, ChunkStream.chunks_after _ htake, List.nil_append,
    streamedHeaders]
  cases ((calls.filterMap Call.contentType?).getLast?.map Utf8.encode).filter Header.isValue <;> rfl

/-- Chunks are neither lost, repeated nor reordered. Whatever its holders call on a stream, a chunk
is refused exactly behind the end of the stream, and leaves it as it is; and what has been taken out
and what is buffered are the accepted chunks in order. So if a handler that is given the stream
takes nothing out of it and replies nothing, the answer's body is the accepted chunks, if there are
any or the stream was finished, and else what the sink holds. -/
theorem run_streamed (calls : List Call) :
    let stream := ({} : ChunkStream).after calls
    let events := ({} : ChunkStream).events calls
    let sent := ChunkStream.accepted events
    (∀ chunk, stream.step (.send chunk) =
        if .finish ∈ calls then (.refused, stream)
        else (.accepted chunk, { stream with chunks := stream.chunks ++ [chunk] })) ∧
      (ChunkStream.taken events).flatten ++ stream.body = sent.flatten ∧
      ∀ (registry : Registry σ) (model : ResourceModel σ) (request : Request)
        (captures : Table String) (w : World σ) (b b' : BoundCall σ) (call' : CallState σ)
        (d : Disk) (st : HandlerState σ), Bare registry.snapshot model.service →
        (∃ p ∈ model.params, p.binding = .context .chunkStream) →
        Binding.bind (scope registry model request captures) ⟨w.app, w.fields, {}⟩ w.disk =
          (.ok b, call', d) →
        b.invoke d { toCallState := call' } = (.ok .empty, st, b') →
        st.stream = stream → .take ∉ calls →
        (run registry model request captures w).1 =
          if sent ≠ [] ∨ .finish ∈ calls then
            ⟨st.sink.status, streamedHeaders st.sink.headers calls, sent.flatten⟩
          else
            ⟨if st.sink.body = none ∧ st.sink.status = 200 then 204 else st.sink.status,
              st.sink.headers, st.sink.body.getD []⟩ := by
  intro stream events sent
  refine ⟨fun chunk => ?_, ?_, ?_⟩
  · have hfinished : stream.finished = true ↔ .finish ∈ calls := by
      rw [ChunkStream.finished_after]
      simp
    rw [ChunkStream.step_send]
    simp only [hfinished]
  · have hbalance := ChunkStream.body_append_accepted {} calls
    rw [← hbalance]
    rfl
  · intro registry model request captures w b b' call' d st hbare hp bound replied hstream htake
    have hstreaming : b'.streaming = true := by
      obtain ⟨p, hp, hbinding⟩ := hp
      obtain ⟨-, hrest⟩ := Prod.mk.inj replied
      obtain ⟨-, rfl⟩ := Prod.mk.inj hrest
      rw [Binding.streaming_of_bind _ bound]
      exact List.any_eq_true.2 ⟨p, hp, by rw [Parameter.streams, hbinding]⟩
    rw [hbare.run_eq bound replied, answer, answerEmpty, hstreaming, Bool.true_and, hstream]
    by_cases hused : sent ≠ [] ∨ .finish ∈ calls
    · rw [if_pos hused, if_pos ((isUsed_after htake).2 hused), streamed_after st.sink htake]
    · rw [if_neg hused, if_neg (fun h => hused ((isUsed_after htake).1 h))]
      simp only [Bool.and_eq_true, Option.isNone_iff_eq_none, beq_iff_eq]
      split <;> rfl

/-- Three lines of a table, and one too late. -/
def tableCalls : List Call :=
  [.send (Utf8.encode "n,v\n"), .setContentType "text/csv", .send (Utf8.encode "a,1\n"),
    .send (Utf8.encode "b,2\n"), .finish, .send (Utf8.encode "c,3\n")]

/-- A method that streams them. -/
def streamsTable : ResourceModel Unit where
  name := "export"
  service := { id := 0, name := "tables" }
  params := [{ binding := .context .chunkStream }]
  handler := fun _ _ st => (.ok .empty, { st with stream := st.stream.after tableCalls })

theorem run_streamed_table :
    (run {} streamsTable { method := "GET", uri := "/" } [] { app := () }).1 =
      ⟨200, [("content-type", [Utf8.encode "text/csv"])], Utf8.encode "n,v\na,1\nb,2\n"⟩ := by
  have hbare : Bare ({} : Registry Unit).snapshot streamsTable.service := ⟨rfl, rfl, rfl⟩
  obtain ⟨-, -, hrun⟩ := @run_streamed Unit tableCalls
  rw [hrun {} streamsTable { method := "GET", uri := "/" } [] { app := () } _ _ _ _ _ hbare
    ⟨_, List.mem_cons_self, rfl⟩ rfl rfl rfl (by decide)]
  decide +kernel

end Dispatch

end ServiceDispatch
