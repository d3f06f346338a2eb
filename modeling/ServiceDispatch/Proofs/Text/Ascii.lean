import ServiceDispatch.Text.Ascii

/-!
# Texts in small letters

`Char.toLower` moves the capitals by 32 and leaves every other character alone. So a text in small
letters stays what it is, and a character in front of the letters stands in `lower s` where it
stands in `s`.
-/

namespace ServiceDispatch.Text

theorem isUpper_iff {c : Char} : c.isUpper = true ↔ 65 ≤ c.toNat ∧ c.toNat ≤ 90 :=
  decide_eq_true_iff

theorem toNat_toLower_of_isUpper {c : Char} (h : c.isUpper = true) :
    c.toLower.toNat = c.toNat + 32 := by
  have hle : c.toNat ≤ 90 := (isUpper_iff.1 h).2
  calc c.toLower.toNat = (c.val + 32).toNat := congrArg Char.toNat (dif_pos (isUpper_iff.1 h))
    _ = (c.toNat + 32) % 2 ^ 32 := UInt32.toNat_add _ _
    _ = c.toNat + 32 := Nat.mod_eq_of_lt (by omega)

theorem toLower_of_not_isUpper {c : Char} (h : c.isUpper ≠ true) : c.toLower = c :=
  dif_neg (mt isUpper_iff.2 h)

theorem toLower_toLower (c : Char) : c.toLower.toLower = c.toLower := by
  by_cases h : c.isUpper = true
  · refine toLower_of_not_isUpper fun hlower => ?_
    have hle : c.toLower.toNat ≤ 90 := (isUpper_iff.1 hlower).2
    have hge : 65 ≤ c.toNat := (isUpper_iff.1 h).1
    rw [toNat_toLower_of_isUpper h] at hle
    omega
  · rw [toLower_of_not_isUpper h, toLower_of_not_isUpper h]

/-- No letter becomes a character in front of the letters. -/
theorem toLower_eq_iff {c d : Char} (hd : d.toNat < 65) : c.toLower = d ↔ c = d := by
  by_cases h : c.isUpper = true
  · have hlower := toNat_toLower_of_isUpper h
    have hge : 65 ≤ c.toNat := (isUpper_iff.1 h).1
    constructor
    all_goals
      rintro rfl
      omega
  · rw [toLower_of_not_isUpper h]

theorem lower_lower (s : String) : lower (lower s) = lower s := by
  apply String.toList_injective
  rw [toList_lower, toList_lower, List.map_map]
  exact List.map_congr_left fun c _ => toLower_toLower c

theorem lower_eq_self_iff {s : String} : lower s = s ↔ ∀ c ∈ s.toList, c.toLower = c := by
  rw [← String.toList_inj, toList_lower]
  constructor
  · intro h c hc
    exact List.map_inj_left.1 (h.trans (List.map_id _).symm) c hc
  · intro h
    exact (List.map_congr_left h).trans (List.map_id _)

theorem mem_toList_lower_iff {c : Char} (hc : c.toNat < 65) (s : String) :
    c ∈ (lower s).toList ↔ c ∈ s.toList := by
  simp [toLower_eq_iff hc]

end ServiceDispatch.Text
