import ServiceDispatch.Text.Blank
import ServiceDispatch.Proofs.Text.Ascii
import Mathlib.Data.List.DropRight
import Mathlib.Data.List.TakeWhile

/-!
# Trimmed texts

A list of characters is trimmed if it neither begins nor ends with a blank. `trimChars` makes
its argument trimmed and leaves what is trimmed already, so trimming twice is trimming once.
The case of letters does not matter for it, since no letter is a blank. Blanks at the ends do not
matter either (`Trimmed.trimChars_append`), and what stands on one side of a character that is no
blank is trimmed apart from the other side (`trimChars_append_cons`).
-/

namespace ServiceDispatch.Text

/-- No blank stands at either end. -/
structure Trimmed (cs : List Char) : Prop where
  head : ∀ c ∈ cs.head?, isBlank c = false
  last : ∀ c ∈ cs.getLast?, isBlank c = false

instance (cs : List Char) : Decidable (Trimmed cs) :=
  @decidable_of_iff _ ((∀ c ∈ cs.head?, isBlank c = false) ∧ ∀ c ∈ cs.getLast?, isBlank c = false)
    ⟨fun h => ⟨h.1, h.2⟩, fun h => ⟨h.head, h.last⟩⟩
    (@instDecidableAnd _ _ (Option.decidableForallMem _) (Option.decidableForallMem _))

theorem head?_trimLeft (cs : List Char) : ∀ c ∈ (trimLeft cs).head?, isBlank c = false := by
  intro c hc
  have hne : cs.dropWhile isBlank ≠ [] := by
    rintro hnil
    simp [trimLeft, hnil] at hc
  rw [trimLeft, List.head?_eq_some_head hne, Option.mem_some_iff] at hc
  rw [← hc]
  simpa using List.head_dropWhile_not isBlank hne

theorem trimLeft_eq_self {cs : List Char} (h : ∀ c ∈ cs.head?, isBlank c = false) :
    trimLeft cs = cs := by
  cases cs with
  | nil => rfl
  | cons c cs => exact trimLeft_cons_of_not_isBlank cs (h c rfl)

theorem trimLeft_cons_of_isBlank {c : Char} (cs : List Char) (h : isBlank c = true) :
    trimLeft (c :: cs) = trimLeft cs := by
  simp [trimLeft, h]

theorem trimRight_prefix_self (cs : List Char) : trimRight cs <+: cs := by
  rw [← List.reverse_suffix, trimRight, List.reverse_reverse]
  exact List.dropWhile_suffix isBlank

theorem trimChars_subset (cs : List Char) : trimChars cs ⊆ cs :=
  List.Subset.trans (trimRight_prefix_self _).subset (List.dropWhile_suffix isBlank).subset

theorem trimmed_trimChars (cs : List Char) : Trimmed (trimChars cs) := by
  constructor
  · intro c hc
    obtain ⟨t, ht⟩ := trimRight_prefix_self (trimLeft cs)
    apply head?_trimLeft cs
    rw [← ht, List.head?_append, ← trimChars, Option.mem_def.1 hc]
    rfl
  · intro c hc
    rw [trimChars, trimRight, List.getLast?_reverse] at hc
    exact head?_trimLeft _ c hc

theorem Trimmed.trimChars_eq {cs : List Char} (h : Trimmed cs) : trimChars cs = cs := by
  have hlast : trimLeft cs.reverse = cs.reverse :=
    trimLeft_eq_self (by simpa using h.last)
  rw [trimChars, trimLeft_eq_self h.head, trimRight, hlast, List.reverse_reverse]

theorem trim_eq_self_iff {s : String} : trim s = s ↔ Trimmed s.toList := by
  constructor
  · intro h
    rw [← h, toList_trim]
    exact trimmed_trimChars s.toList
  · intro h
    rw [trim, h.trimChars_eq, String.ofList_toList]

theorem trimChars_cons_of_isBlank {c : Char} (cs : List Char) (h : isBlank c = true) :
    trimChars (c :: cs) = trimChars cs := by
  rw [trimChars, trimLeft_cons_of_isBlank cs h, ← trimChars]

/-- A list without blanks is trimmed. -/
theorem Trimmed.of_forall {cs : List Char} (h : ∀ c ∈ cs, isBlank c = false) : Trimmed cs :=
  ⟨fun c hc => h c (List.mem_of_mem_head? hc), fun c hc => h c (List.mem_of_mem_getLast? hc)⟩

theorem isBlank_eq_false_of_le {c : Char} (h : 0x21 ≤ c.toNat) (h' : c.toNat ≤ 0x7f) :
    isBlank c = false := by
  simp [isBlank]
  omega

theorem isBlank_toLower (c : Char) : isBlank c.toLower = isBlank c := by
  by_cases h : c.isUpper = true
  · have hlower := toNat_toLower_of_isUpper h
    obtain ⟨hge, hle⟩ := isUpper_iff.1 h
    rw [isBlank_eq_false_of_le (c := c) (by omega) (by omega),
      isBlank_eq_false_of_le (by omega) (by omega)]
  · rw [toLower_of_not_isUpper h]

theorem trimmed_map_toLower_iff {cs : List Char} :
    Trimmed (cs.map Char.toLower) ↔ Trimmed cs := by
  have hblank (o : Option Char) : (∀ c ∈ o.map Char.toLower, isBlank c = false) ↔
      ∀ c ∈ o, isBlank c = false := by
    cases o <;> simp [isBlank_toLower]
  constructor
  · rintro ⟨hhead, hlast⟩
    rw [List.head?_map, hblank] at hhead
    rw [List.getLast?_map, hblank] at hlast
    exact ⟨hhead, hlast⟩
  · rintro ⟨hhead, hlast⟩
    constructor
    · rwa [List.head?_map, hblank]
    · rwa [List.getLast?_map, hblank]

/-! ### Blanks at the ends -/

theorem trimChars_append_left {p : List Char} (hp : ∀ c ∈ p, isBlank c = true) (s : List Char) :
    trimChars (p ++ s) = trimChars s := by
  rw [trimChars, trimLeft, List.dropWhile_append_of_pos hp, ← trimLeft, ← trimChars]

theorem trimRight_append {p : List Char} (hp : ∀ c ∈ p, isBlank c = true) (s : List Char) :
    trimRight (s ++ p) = trimRight s := by
  have hreverse : ∀ c ∈ p.reverse, isBlank c = true := fun c hc => hp c (List.mem_reverse.1 hc)
  rw [trimRight, List.reverse_append, trimLeft, List.dropWhile_append_of_pos hreverse, ← trimLeft,
    ← trimRight]

theorem trimChars_append_right {p : List Char} (hp : ∀ c ∈ p, isBlank c = true) (s : List Char) :
    trimChars (s ++ p) = trimChars s := by
  have hnil : trimLeft p = [] := List.dropWhile_eq_nil_iff.2 hp
  rw [trimChars, trimChars, trimLeft, List.dropWhile_append]
  split
  · next h => rw [← trimLeft, hnil, trimLeft, List.isEmpty_iff.1 h]
  · rw [← trimLeft, trimRight_append hp]

theorem Trimmed.trimChars_append {s : List Char} (h : Trimmed s) {p q : List Char}
    (hp : ∀ c ∈ p, isBlank c = true) (hq : ∀ c ∈ q, isBlank c = true) :
    trimChars (p ++ (s ++ q)) = s := by
  rw [trimChars_append_left hp, trimChars_append_right hq, h.trimChars_eq]

theorem trimChars_trimLeft (s : List Char) : trimChars (trimLeft s) = trimChars s := by
  rw [trimChars, trimLeft, trimLeft, List.dropWhile_idempotent, ← trimLeft, ← trimChars]

theorem trimChars_trimRight (s : List Char) : trimChars (trimRight s) = trimChars s := by
  conv_rhs => rw [← List.rdropWhile_append_rtakeWhile (p := isBlank) (l := s)]
  exact (trimChars_append_right (fun c hc => List.mem_rtakeWhile_imp hc) _).symm

/-- Trimming in front of a character that is no blank, and behind it. -/
theorem trimChars_append_cons {c : Char} (hc : isBlank c = false) (s t : List Char) :
    trimChars (s ++ c :: t) = trimLeft s ++ c :: trimRight t := by
  have hleft (s t : List Char) : trimLeft (s ++ c :: t) = trimLeft s ++ c :: t := by
    rw [trimLeft, List.dropWhile_append, ← trimLeft, ← trimLeft, trimLeft_cons_of_not_isBlank t hc]
    split
    · next h => rw [List.isEmpty_iff.1 h, List.nil_append]
    · rfl
  have hreverse : (trimLeft s ++ c :: t).reverse = t.reverse ++ c :: (trimLeft s).reverse := by
    simp
  rw [trimChars, hleft, trimRight, hreverse, hleft]
  simp [trimRight]

end ServiceDispatch.Text
