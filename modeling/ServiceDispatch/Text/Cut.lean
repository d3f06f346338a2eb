/-!
# Cutting a sequence at a separator

`cut? sep s` splits a sequence around the leftmost occurrence of `sep`, and
`pieces sep s` splits it around every occurrence, taking each search up after
the end of the one before. Both serve bytes and characters alike. The work is
done by `cutFrom`, which keeps the elements already passed in reverse, so that
long bodies need no stack.
-/

namespace ServiceDispatch.Text

variable {α : Type} [BEq α]

/-- The search for `sep`, with the elements already passed in reverse. -/
def cutFrom (sep passed : List α) : List α → Option (List α × List α)
  | [] => if sep.isEmpty then some (passed.reverse, []) else none
  | a :: s =>
    if sep.isPrefixOf (a :: s) then some (passed.reverse, (a :: s).drop sep.length)
    else cutFrom sep (a :: passed) s

/-- What stands before and after the leftmost occurrence of `sep`. -/
def cut? (sep s : List α) : Option (List α × List α) := cutFrom sep [] s

theorem cutFrom_eq (sep passed s : List α) :
    cutFrom sep passed s = (cut? sep s).map fun p => (passed.reverse ++ p.1, p.2) := by
  unfold cut?
  suffices h : ∀ (s q : List α), cutFrom sep (q ++ passed) s =
      (cutFrom sep q s).map fun p => (passed.reverse ++ p.1, p.2) by
    simpa using h s []
  intro s
  induction s with
  | nil => intro q; by_cases h : sep.isEmpty <;> simp [cutFrom, h]
  | cons a s ih =>
    intro q
    by_cases h : sep.isPrefixOf (a :: s)
    · simp [cutFrom, h]
    · simpa [cutFrom, h] using ih (a :: q)

theorem cut?_nil (sep : List α) :
    cut? sep [] = if sep.isEmpty then some ([], []) else none := rfl

theorem cut?_cons (sep : List α) (a : α) (s : List α) :
    cut? sep (a :: s) =
      if sep.isPrefixOf (a :: s) then some ([], (a :: s).drop sep.length)
      else (cut? sep s).map fun p => (a :: p.1, p.2) := by
  rw [cut?, cutFrom]
  split
  · rfl
  · rw [cutFrom_eq]; simp

/-- The parts of the sequence between the occurrences of `sep`. A separator
without elements separates nothing. -/
def pieces (sep s : List α) : List (List α) :=
  match cut? sep s with
  | none => [s]
  | some (a, r) => if r.length < s.length then a :: pieces sep r else [s]
termination_by s.length

theorem pieces_eq_singleton {sep s : List α} (h : cut? sep s = none) : pieces sep s = [s] := by
  rw [pieces, h]

theorem pieces_eq_cons {sep s a r : List α} (h : cut? sep s = some (a, r))
    (hr : r.length < s.length) : pieces sep s = a :: pieces sep r := by
  rw [pieces, h]; simp [hr]

/-- The two texts around the first `c`, if the text contains one. -/
def cutAt? (c : Char) (s : String) : Option (String × String) :=
  (cut? [c] s.toList).map fun p => (String.ofList p.1, String.ofList p.2)

end ServiceDispatch.Text
