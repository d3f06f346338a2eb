import Mathlib.Data.List.Basic

/-!
# Callbacks in order

The callbacks of a stage are run one after the other, each on what the one before left, up to the
first whose result does not let them go on. `InOrder` says so of a list of runs, whatever a callback
is given, and `upTo` makes the one list of which it is true.

Only the last run can have a result that stops. So what a stage comes to is told by the result of
its last run, and a loop that runs the callbacks gives that result back (`InOrder.loop_eq`).
-/

namespace ServiceDispatch

/-- One run of a callback: what it was given, its result, and what it left. -/
structure CallbackRun (κ α ε : Type) where
  callback : κ
  given : α
  result : ε
  left : α

namespace CallbackRun

variable {κ α ε : Type}

/-- The run of a callback on what it is given. -/
def of (act : κ → α → ε × α) (k : κ) (a : α) : CallbackRun κ α ε := ⟨k, a, (act k a).1, (act k a).2⟩

/-- What a list of runs left. -/
def lastLeft (a : α) (runs : List (CallbackRun κ α ε)) : α := (runs.getLast?.map left).getD a

/-- How a list of runs ended, which is with `e` if there is none. -/
def lastResult (e : ε) (runs : List (CallbackRun κ α ε)) : ε := (runs.getLast?.map result).getD e

/-- The runs of callbacks up to the first whose result does not let them go on. -/
def upTo (act : κ → α → ε × α) (goesOn : ε → Bool) : List κ → α → List (CallbackRun κ α ε)
  | [], _ => []
  | k :: ks, a => of act k a :: if goesOn (act k a).1 then upTo act goesOn ks (act k a).2 else []

theorem lastLeft_cons (a : α) (run : CallbackRun κ α ε) (runs : List (CallbackRun κ α ε)) :
    lastLeft a (run :: runs) = lastLeft run.left runs := by
  rw [lastLeft, lastLeft, List.getLast?_cons]
  cases runs.getLast? <;> rfl

theorem lastResult_cons (e : ε) (run : CallbackRun κ α ε) (runs : List (CallbackRun κ α ε)) :
    lastResult e (run :: runs) = lastResult run.result runs := by
  rw [lastResult, lastResult, List.getLast?_cons]
  cases runs.getLast? <;> rfl

end CallbackRun

open CallbackRun

/-- Callbacks run in order, each on what the one before left, up to the first whose result does
not let them go on. -/
inductive InOrder {κ α ε : Type} (act : κ → α → ε × α) (goesOn : ε → Bool) :
    List κ → α → List (CallbackRun κ α ε) → Prop where
  | done (a : α) : InOrder act goesOn [] a []
  | next {k : κ} {ks : List κ} {a : α} {runs : List (CallbackRun κ α ε)}
      (on : goesOn (act k a).1 = true) (rest : InOrder act goesOn ks (act k a).2 runs) :
      InOrder act goesOn (k :: ks) a (.of act k a :: runs)
  | last {k : κ} (ks : List κ) {a : α} (on : goesOn (act k a).1 = false) :
      InOrder act goesOn (k :: ks) a [.of act k a]

theorem inOrder_upTo {κ α ε : Type} (act : κ → α → ε × α) (goesOn : ε → Bool) (ks : List κ)
    (a : α) : InOrder act goesOn ks a (upTo act goesOn ks a) := by
  induction ks generalizing a with
  | nil => exact .done a
  | cons k ks ih =>
      rw [upTo]
      split
      · next on => exact .next on (ih _)
      · next on => exact .last ks (Bool.eq_false_iff.2 on)

namespace InOrder

variable {κ α ε : Type} {act : κ → α → ε × α} {goesOn : ε → Bool} {ks : List κ} {a : α}
  {runs : List (CallbackRun κ α ε)}

theorem eq_upTo (h : InOrder act goesOn ks a runs) :
    runs = upTo act goesOn ks a := by
  induction h with
  | done a => rfl
  | next on rest ih => rw [upTo, if_pos on, ← ih]
  | last ks on => rw [upTo, if_neg (Bool.eq_false_iff.1 on)]

theorem unique {runs' : List (CallbackRun κ α ε)} (h : InOrder act goesOn ks a runs)
    (h' : InOrder act goesOn ks a runs') : runs = runs' :=
  h.eq_upTo.trans h'.eq_upTo.symm

/-- The callbacks that ran are the first ones. -/
theorem map_callback (h : InOrder act goesOn ks a runs) :
    runs.map callback = ks.take runs.length := by
  induction h with
  | done a => rfl
  | next on rest ih => exact congrArg (List.cons _) ih
  | last ks on => rfl

/-- All runs but the last let the callbacks go on. -/
theorem eq_nil_or_append (h : InOrder act goesOn ks a runs) :
    runs = [] ∨ ∃ earlier run, runs = earlier ++ [run] ∧
      ∀ r ∈ earlier, goesOn r.result = true := by
  induction h with
  | done a => exact .inl rfl
  | last ks on => exact .inr ⟨[], _, rfl, by simp⟩
  | @next k ks a runs on rest ih =>
      right
      rcases ih with rfl | ⟨earlier, run, rfl, hearlier⟩
      · exact ⟨[], _, rfl, by simp⟩
      · exact ⟨of act k a :: earlier, run, rfl, List.forall_mem_cons.2 ⟨on, hearlier⟩⟩

/-- A loop over callbacks ends as its last run did. -/
theorem loop_eq (loop : List κ → α → ε × α) {e : ε} (h : InOrder act goesOn ks a runs)
    (hnil : ∀ a, loop [] a = (e, a))
    (hcons : ∀ k ks a, loop (k :: ks) a =
      if goesOn (act k a).1 then loop ks (act k a).2 else act k a)
    (he : ∀ e', goesOn e' = true → e' = e) : loop ks a = (lastResult e runs, lastLeft a runs) := by
  induction h with
  | done a => exact hnil a
  | next on rest ih => rw [hcons, if_pos on, ih, lastResult_cons, lastLeft_cons, of, he _ on]
  | last ks on => rw [hcons, if_neg (Bool.eq_false_iff.1 on)]; rfl

section LastResult

variable {e : ε} (h : InOrder act goesOn ks a runs) (he : goesOn e = true)
include h he

theorem all_goesOn : (runs.all fun run => goesOn run.result) = goesOn (lastResult e runs) := by
  rcases h.eq_nil_or_append with rfl | ⟨earlier, run, rfl, hearlier⟩
  · exact he.symm
  · have hall : (earlier.all fun run => goesOn run.result) = true := List.all_eq_true.2 hearlier
    simp [lastResult, hall]

/-- What no result that goes on shows is shown by the last result or by none. -/
theorem filterMap_result {β : Type} {f : ε → Option β}
    (hf : ∀ e, goesOn e = true → f e = none) :
    runs.filterMap (fun run => f run.result) = (f (lastResult e runs)).toList := by
  rcases h.eq_nil_or_append with rfl | ⟨earlier, run, rfl, hearlier⟩
  · simp [lastResult, hf e he]
  · have hnone : earlier.filterMap (fun run => f run.result) = [] :=
      List.filterMap_eq_nil_iff.2 fun r hr => hf r.result (hearlier r hr)
    rw [List.filterMap_append, hnone]
    cases hlast : f run.result <;> simp [lastResult, hlast]

theorem any_result {p : ε → Bool} (hp : ∀ e, goesOn e = true → p e = false) :
    (runs.any fun run => p run.result) = p (lastResult e runs) := by
  rcases h.eq_nil_or_append with rfl | ⟨earlier, run, rfl, hearlier⟩
  · exact (hp e he).symm
  · have hnone : (earlier.any fun run => p run.result) = false :=
      List.any_eq_false.2 fun r hr => Bool.eq_false_iff.1 (hp r.result (hearlier r hr))
    simp [lastResult, hnone]

end LastResult

end InOrder

end ServiceDispatch
