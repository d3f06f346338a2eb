import ServiceDispatch.Text.Cut
import Mathlib.Data.List.Infix

/-!
# Where a sequence is cut

`CutsAt sep s before after` says what `cut?` finds: `s` is `before`, the separator and
`after`, and no earlier place of `s` begins the separator. What stands before the cut may
still reach into the separator with its end, so an occurrence that straddles the two has to
be ruled out whenever a cut is shown to be the first one. Two conditions on the separator do
that: its first element occurs in it only once, or the last element in front of the cut does
not occur in it at all.

`pieces_eq_iff` reads the pieces of a sequence as the one way to write it as pieces without
the separator that are joined by it.
-/

namespace ServiceDispatch.Text

variable {α : Type}

/-- The first occurrence of `sep` in `s` stands between `before` and `after`. -/
structure CutsAt (sep s before after : List α) : Prop where
  eq_append : s = before ++ (sep ++ after)
  first : ∀ n < before.length, ¬ sep <+: s.drop n

theorem CutsAt.nil (sep after : List α) : CutsAt sep (sep ++ after) [] after :=
  ⟨rfl, fun _ hn => absurd hn (Nat.not_lt_zero _)⟩

/-- What stands in front of the first occurrence does not contain the separator. -/
theorem CutsAt.not_infix_before {sep s before after : List α} (h : CutsAt sep s before after)
    (hsep : sep ≠ []) : ¬ sep <:+: before := by
  rintro ⟨u, v, rfl⟩
  have hlen : u.length < (u ++ sep ++ v).length := by
    have := List.length_pos_iff.2 hsep
    simp only [List.length_append]
    omega
  refine h.first u.length hlen ⟨v ++ (sep ++ after), ?_⟩
  rw [h.eq_append]
  simp

/-- An occurrence of the separator that begins in `p` either lies in `p` or begins with the
rest of `p`. -/
theorem infix_or_straddles {sep p s : List α} {n : Nat} (hsep : sep <+: (p ++ s).drop n)
    (hn : n < p.length) :
    sep <:+: p ∨ ∃ q w, q ≠ [] ∧ w ≠ [] ∧ q <:+ p ∧ sep = q ++ w ∧ w <+: s := by
  rw [List.drop_append_of_le_length hn.le] at hsep
  rcases List.prefix_or_prefix_of_prefix hsep (List.prefix_append (p.drop n) s) with h | ⟨w, hw⟩
  · exact .inl (h.isInfix.trans (List.drop_suffix n p).isInfix)
  · by_cases hnil : w = []
    · subst hnil
      rw [← hw, List.append_nil]
      exact .inl (List.drop_suffix n p).isInfix
    · right
      refine ⟨p.drop n, w, ?_, hnil, List.drop_suffix n p, hw.symm, ?_⟩
      · simpa using hn
      · rwa [← hw, List.prefix_append_right_inj] at hsep

/-- A cut is the first one if the separator's first element occurs in it only once. -/
theorem CutsAt.of_head {a : α} {t p : List α} (ha : a ∉ t) (hp : ¬ a :: t <:+: p)
    (r : List α) : CutsAt (a :: t) (p ++ (a :: t ++ r)) p r := by
  refine ⟨rfl, fun n hn hsep => ?_⟩
  rcases infix_or_straddles hsep hn with h | ⟨q, w, hq, hw, -, hqw, hwr⟩
  · exact hp h
  · obtain ⟨b, q, rfl⟩ := List.exists_cons_of_ne_nil hq
    obtain ⟨c, w, rfl⟩ := List.exists_cons_of_ne_nil hw
    rw [List.cons_append, List.cons.injEq] at hqw
    rw [List.cons_append, List.cons_prefix_cons] at hwr
    apply ha
    rw [hqw.2, ← hwr.1]
    simp

/-- A cut is the first one if the element in front of it does not occur in the separator. -/
theorem CutsAt.of_last {sep p : List α} (hlast : ∀ c ∈ p.getLast?, c ∉ sep)
    (hp : ¬ sep <:+: p) (r : List α) : CutsAt sep (p ++ (sep ++ r)) p r := by
  refine ⟨rfl, fun n hn hsep => ?_⟩
  rcases infix_or_straddles hsep hn with h | ⟨q, w, hq, -, ⟨u, rfl⟩, rfl, -⟩
  · exact hp h
  · apply hlast (q.getLast hq)
    · rw [List.getLast?_append_of_ne_nil _ hq, List.getLast?_eq_some_getLast hq]
      rfl
    · exact List.mem_append_left w (List.getLast_mem hq)

/-- Whether a cut is the first one does not depend on what follows the separator. -/
theorem cutsAt_iff {sep before after : List α} :
    CutsAt sep (before ++ (sep ++ after)) before after ↔
      ∀ n < before.length, ¬ sep <+: (before ++ sep).drop n := by
  have hstarts : ∀ n < before.length, sep <+: (before ++ (sep ++ after)).drop n ↔
      sep <+: (before ++ sep).drop n := by
    intro n hn
    have hlen : sep.length ≤ ((before ++ sep).drop n).length := by
      rw [List.length_drop, List.length_append]
      omega
    rw [← List.append_assoc, List.drop_append_of_le_length (by rw [List.length_append]; omega)]
    exact ⟨fun h => List.prefix_of_prefix_length_le h (List.prefix_append _ _) hlen,
      fun h => h.trans (List.prefix_append _ _)⟩
  exact ⟨fun h n hn => mt (hstarts n hn).2 (h.first n hn),
    fun h => ⟨rfl, fun n hn => mt (hstarts n hn).1 (h n hn)⟩⟩

/-- A cut is the first one if none begins with the first element, nor behind it. -/
theorem cutsAt_cons_iff {sep s before after : List α} {a : α} :
    CutsAt sep (a :: s) (a :: before) after ↔ ¬ sep <+: a :: s ∧ CutsAt sep s before after := by
  constructor
  · intro h
    refine ⟨h.first 0 (Nat.succ_pos _), List.cons.inj h.eq_append |>.2, fun n hn => ?_⟩
    exact h.first (n + 1) (Nat.succ_lt_succ hn)
  · rintro ⟨hhead, htail⟩
    refine ⟨congrArg (a :: ·) htail.eq_append, fun n hn => ?_⟩
    cases n with
    | zero => exact hhead
    | succ n => exact htail.first n (Nat.lt_of_succ_lt_succ hn)

theorem cutsAt_append_iff_of_not_mem {a : α} {t p s before after : List α} (ha : a ∉ p) :
    CutsAt (a :: t) (p ++ s) (p ++ before) after ↔ CutsAt (a :: t) s before after := by
  induction p with
  | nil => rfl
  | cons b p ih =>
      rw [List.mem_cons, not_or] at ha
      have hhead : ¬ a :: t <+: b :: (p ++ s) := fun h => ha.1 (List.cons_prefix_cons.1 h).1
      rw [List.cons_append, List.cons_append, cutsAt_cons_iff, and_iff_right hhead, ih ha.2]

/-- A sequence without `c` is found in front of a `c` or not at all. -/
theorem prefix_append_cons_iff {c : α} {t p s : List α} (hc : c ∉ t) :
    t <+: p ++ c :: s ↔ t <+: p := by
  refine ⟨fun h => ?_, fun h => h.trans (List.prefix_append p _)⟩
  rcases List.prefix_or_prefix_of_prefix h (List.prefix_append p (c :: s)) with h' | ⟨w, rfl⟩
  · exact h'
  · rw [List.prefix_append_right_inj] at h
    cases w with
    | nil => rw [List.append_nil]
    | cons b w =>
        rw [(List.cons_prefix_cons.1 h).1] at hc
        exact absurd (List.mem_append_right _ List.mem_cons_self) hc

/-- In front of the element that begins the separator, and occurs in it only there, a sequence is
passed exactly if it does not contain the separator. -/
theorem cutsAt_append_cons_iff {a : α} {t p s before after : List α} (ha : a ∉ t) :
    CutsAt (a :: t) (p ++ a :: s) (p ++ a :: before) after ↔
      ¬ a :: t <:+: p ∧ CutsAt (a :: t) (a :: s) (a :: before) after := by
  induction p with
  | nil => simp
  | cons b p ih =>
      have hhead : a :: t <+: b :: (p ++ a :: s) ↔ a :: t <+: b :: p := by
        rw [List.cons_prefix_cons, List.cons_prefix_cons, prefix_append_cons_iff ha]
      rw [List.cons_append, List.cons_append, cutsAt_cons_iff, ih, hhead, List.infix_cons_iff,
        not_or, and_assoc]

variable [BEq α] [LawfulBEq α]

theorem cutsAt_of_cut? {sep s p r : List α} (h : cut? sep s = some (p, r)) :
    CutsAt sep s p r := by
  induction s generalizing p with
  | nil =>
      rw [cut?_nil] at h
      split at h
      · next hsep =>
        rw [List.isEmpty_iff] at hsep
        simp only [Option.some.injEq, Prod.mk.injEq] at h
        obtain ⟨rfl, rfl⟩ := h
        subst hsep
        exact CutsAt.nil [] []
      · simp at h
  | cons a s ih =>
      rw [cut?_cons] at h
      split at h
      · next hsep =>
        simp only [Option.some.injEq, Prod.mk.injEq] at h
        obtain ⟨rfl, rfl⟩ := h
        obtain ⟨t, ht⟩ := List.isPrefixOf_iff_prefix.1 hsep
        rw [← ht, List.drop_left]
        exact CutsAt.nil sep t
      · next hsep =>
        rw [List.isPrefixOf_iff_prefix] at hsep
        obtain ⟨⟨p', r'⟩, hc, hp⟩ := Option.map_eq_some_iff.1 h
        simp only [Prod.mk.injEq] at hp
        obtain ⟨rfl, rfl⟩ := hp
        have hcut := ih hc
        refine ⟨by rw [hcut.eq_append]; rfl, fun n hn => ?_⟩
        cases n with
        | zero => exact hsep
        | succ n => exact hcut.first n (by simpa using hn)

theorem CutsAt.cut?_eq {sep s p r : List α} (h : CutsAt sep s p r) :
    cut? sep s = some (p, r) := by
  induction p generalizing s with
  | nil =>
      rw [h.eq_append, List.nil_append]
      cases hs : sep ++ r with
      | nil =>
          obtain ⟨rfl, rfl⟩ := List.append_eq_nil_iff.1 hs
          rfl
      | cons b s' =>
          have hsep : sep.isPrefixOf (b :: s') = true := by
            rw [List.isPrefixOf_iff_prefix, ← hs]
            exact List.prefix_append sep r
          rw [cut?_cons, if_pos hsep, ← hs, List.drop_left]
  | cons a p ih =>
      obtain rfl : s = a :: (p ++ (sep ++ r)) := h.eq_append
      have hsep : ¬ sep.isPrefixOf (a :: (p ++ (sep ++ r))) = true := by
        rw [List.isPrefixOf_iff_prefix]
        exact h.first 0 (Nat.succ_pos _)
      have htail : CutsAt sep (p ++ (sep ++ r)) p r :=
        ⟨rfl, fun n hn => h.first (n + 1) (Nat.succ_lt_succ hn)⟩
      rw [cut?_cons, if_neg hsep, ih htail]
      rfl

/-- The search finds the first occurrence. -/
theorem cut?_eq_some_iff {sep s p r : List α} :
    cut? sep s = some (p, r) ↔ CutsAt sep s p r :=
  ⟨cutsAt_of_cut?, CutsAt.cut?_eq⟩

theorem cut?_eq_none_iff {sep s : List α} : cut? sep s = none ↔ ¬ sep <:+: s := by
  induction s with
  | nil =>
      rw [cut?_nil, List.infix_nil]
      by_cases h : sep = [] <;> simp [h]
  | cons a s ih =>
      rw [cut?_cons, List.infix_cons_iff, ← List.isPrefixOf_iff_prefix]
      by_cases h : sep.isPrefixOf (a :: s) <;> simp [h, ih]

/-- The cut at a single element. -/
theorem cut?_singleton (c : α) (s : List α) :
    cut? [c] s =
      if c ∈ s then some (s.takeWhile (· != c), (s.dropWhile (· != c)).tail) else none := by
  induction s with
  | nil => rfl
  | cons a s ih =>
      rw [cut?_cons, List.takeWhile_cons, List.dropWhile_cons]
      by_cases h : a = c
      · subst h
        simp
      · have hpre : ¬ [c].isPrefixOf (a :: s) = true := by
          rw [List.isPrefixOf_iff_prefix, List.cons_prefix_cons]
          exact fun hac => h hac.1.symm
        have hmem : c ∈ a :: s ↔ c ∈ s := by
          rw [List.mem_cons, or_iff_right (Ne.symm h)]
        rw [if_neg hpre, ih, if_pos (bne_iff_ne.2 h), if_pos (bne_iff_ne.2 h)]
        by_cases hc : c ∈ s
        · rw [if_pos hc, if_pos (hmem.2 hc)]
          rfl
        · rw [if_neg hc, if_neg (mt hmem.1 hc)]
          rfl

/-- What stands around the first occurrence of a character. -/
theorem cutAt?_eq_some {c : Char} {s before after : String}
    (hs : s.toList = before.toList ++ c :: after.toList) (hc : c ∉ before.toList) :
    cutAt? c s = some (before, after) := by
  have hbefore : ∀ a ∈ before.toList, (a != c) = true := fun a ha =>
    bne_iff_ne.2 fun hac => hc (hac ▸ ha)
  have hcut : cut? [c] s.toList = some (before.toList, after.toList) := by
    rw [cut?_singleton, hs, if_pos (by simp), List.takeWhile_append_of_pos hbefore,
      List.dropWhile_append_of_pos hbefore]
    simp
  rw [cutAt?, hcut, Option.map_some, String.ofList_toList, String.ofList_toList]

/-- For a separator whose first element occurs in it only once, the pieces of a sequence are
the one way to write it as pieces without the separator that are joined by it. -/
theorem pieces_eq_iff {a : α} {t s : List α} {ls : List (List α)} (ha : a ∉ t) :
    pieces (a :: t) s = ls ↔
      ls ≠ [] ∧ (a :: t).intercalate ls = s ∧ ∀ l ∈ ls, ¬ a :: t <:+: l := by
  constructor
  · rintro rfl
    induction hn : s.length using Nat.strong_induction_on generalizing s with
    | _ n ih =>
      cases hc : cut? (a :: t) s with
      | none =>
          rw [pieces_eq_singleton hc]
          refine ⟨by simp, List.intercalate_singleton, fun l hl => ?_⟩
          rw [List.mem_singleton.1 hl]
          exact cut?_eq_none_iff.1 hc
      | some c =>
          obtain ⟨p, r⟩ := c
          have hcut := cut?_eq_some_iff.1 hc
          have hlt : r.length < s.length := by
            rw [hcut.eq_append]
            simp only [List.length_append, List.length_cons]
            omega
          obtain ⟨hne, hjoin, hfree⟩ := ih r.length (hn ▸ hlt) rfl
          rw [pieces_eq_cons hc hlt]
          refine ⟨by simp, ?_, ?_⟩
          · rw [List.intercalate_cons_of_ne_nil hne, hjoin, hcut.eq_append, List.append_assoc]
          · rintro l (_ | ⟨_, hl⟩)
            · exact hcut.not_infix_before (by simp)
            · exact hfree l hl
  · rintro ⟨hne, rfl, hfree⟩
    induction ls with
    | nil => exact absurd rfl hne
    | cons l ls ih =>
        have hl : ¬ a :: t <:+: l := hfree l (by simp)
        by_cases hls : ls = []
        · subst hls
          rw [List.intercalate_singleton]
          exact pieces_eq_singleton (cut?_eq_none_iff.2 hl)
        · rw [List.intercalate_cons_of_ne_nil hls, List.append_assoc]
          have hcut := CutsAt.of_head ha hl ((a :: t).intercalate ls)
          rw [pieces_eq_cons hcut.cut?_eq (by simp; omega),
            ih hls fun m hm => hfree m (List.mem_cons_of_mem l hm)]

end ServiceDispatch.Text
