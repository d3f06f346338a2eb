import ServiceDispatch.Text.Utf8
import Mathlib.Data.List.Infix
import Mathlib.Data.List.TakeWhile

/-!
# Texts and their bytes

`decode?_eq_some_iff` says that `decode?` is the inverse of `encode`: bytes are UTF-8 exactly
if they are what some text is written as, and then it is that text that is read, also by
`decodeLossy`. The work is done for one scalar value, in both directions, by cases on how many
bytes follow the first one. `followersOf` leaves three such cases, and in each of them the bounds
of the second byte are what rules out overlong forms, surrogates and numbers above U+10FFFF.
-/

namespace ServiceDispatch.Utf8

theorem followersOf_one {b : UInt8} (h : 0xc2 ≤ b) (h' : b ≤ 0xdf) :
    followersOf b = some (1, 0x80, 0xbf) := by
  grind [followersOf]

theorem followersOf_two {b : UInt8} (h : 0xe0 ≤ b) (h' : b ≤ 0xef) :
    followersOf b =
      some (2, if b = 0xe0 then 0xa0 else 0x80, if b = 0xed then 0x9f else 0xbf) := by
  grind [followersOf]

theorem followersOf_three {b : UInt8} (h : 0xf0 ≤ b) (h' : b ≤ 0xf4) :
    followersOf b =
      some (3, if b = 0xf0 then 0x90 else 0x80, if b = 0xf4 then 0x8f else 0xbf) := by
  grind [followersOf]

theorem followersOf_none {b : UInt8} (h : b < 0xc2 ∨ 0xf4 < b) : followersOf b = none := by
  grind [followersOf]

theorem takeWhile_take_eq {l : Bytes} {p : UInt8 → Bool} {k : Nat}
    (h : ((l.take k).takeWhile p).length = k) :
    (l.take k).takeWhile p = l.take k ∧ k ≤ l.length := by
  have hpre : (l.take k).takeWhile p <+: l.take k := List.takeWhile_prefix p
  have hle := hpre.length_le
  have htake := List.length_take_le k l
  have heq := hpre.eq_of_length (by omega)
  refine ⟨heq, ?_⟩
  rw [heq, List.length_take] at h
  omega

/-- What `scan` makes of a byte that begins a longer sequence. -/
theorem scan_eq_scalar_iff {b : UInt8} (hb : 0x80 ≤ b) {rest : Bytes} {c : Char} {extra : Nat} :
    scan b rest = .scalar c extra ↔
      ∃ low high second more, followersOf b = some (extra, low, high) ∧
        rest = second :: more ∧ low ≤ second ∧ second ≤ high ∧ extra - 1 ≤ more.length ∧
        (∀ x ∈ more.take (extra - 1), isContinuation x = true) ∧
        c = assemble (leadBits extra b) (second :: more.take (extra - 1)) := by
  have hlow : ¬ b < 0x80 := UInt8.not_lt.2 hb
  constructor
  · intro h
    simp only [scan, if_neg hlow] at h
    split at h
    · simp at h
    · next count low high hf =>
      split at h
      · simp at h
      · next second more =>
        split at h
        · simp at h
        · next hin =>
          split at h
          · next hgood =>
            obtain ⟨heq, hlen⟩ := takeWhile_take_eq hgood
            simp only [heq, Scan.scalar.injEq] at h
            obtain ⟨rfl, rfl⟩ := h
            simp only [Bool.or_eq_true, decide_eq_true_eq, not_or, UInt8.not_lt] at hin
            refine ⟨low, high, second, more, hf, rfl, hin.1, hin.2, hlen, ?_, rfl⟩
            rw [← heq]
            exact fun x hx => List.mem_takeWhile_imp hx
          · split at h <;> simp at h
  · rintro ⟨low, high, second, more, hf, rfl, hl, hh, hlen, hgood, rfl⟩
    have hin : ¬ (decide (second < low) || decide (high < second)) = true := by
      simp [UInt8.not_lt.2 hl, UInt8.not_lt.2 hh]
    have htake : (more.take (extra - 1)).takeWhile isContinuation = more.take (extra - 1) :=
      List.takeWhile_eq_self_iff.2 hgood
    simp only [scan, if_neg hlow, hf, if_neg hin, htake, List.length_take]
    rw [if_pos (by omega)]

/-! ### One scalar value -/

theorem encodeChar_one {c : Char} (h : c.toNat ≤ 0x7f) :
    String.utf8EncodeChar c = [UInt8.ofNat c.toNat] := by
  simp only [Char.toNat] at h ⊢
  simp only [String.utf8EncodeChar, if_pos h]

theorem encodeChar_two {c : Char} (h : 0x7f < c.toNat) (h' : c.toNat ≤ 0x7ff) :
    String.utf8EncodeChar c =
      [UInt8.ofNat (c.toNat / 64 % 0x20 + 0xc0), UInt8.ofNat (c.toNat % 0x40 + 0x80)] := by
  simp only [Char.toNat] at h h' ⊢
  simp only [String.utf8EncodeChar, if_neg (Nat.not_le.2 h), if_pos h']

theorem encodeChar_three {c : Char} (h : 0x7ff < c.toNat) (h' : c.toNat ≤ 0xffff) :
    String.utf8EncodeChar c =
      [UInt8.ofNat (c.toNat / 4096 % 0x10 + 0xe0), UInt8.ofNat (c.toNat / 64 % 0x40 + 0x80),
        UInt8.ofNat (c.toNat % 0x40 + 0x80)] := by
  simp only [Char.toNat] at h h' ⊢
  have h₁ : ¬ c.val.toNat ≤ 0x7f := by omega
  simp only [String.utf8EncodeChar, if_neg h₁, if_neg (Nat.not_le.2 h), if_pos h']

theorem encodeChar_four {c : Char} (h : 0xffff < c.toNat) :
    String.utf8EncodeChar c =
      [UInt8.ofNat (c.toNat / 262144 % 0x08 + 0xf0), UInt8.ofNat (c.toNat / 4096 % 0x40 + 0x80),
        UInt8.ofNat (c.toNat / 64 % 0x40 + 0x80), UInt8.ofNat (c.toNat % 0x40 + 0x80)] := by
  simp only [Char.toNat] at h ⊢
  have h₁ : ¬ c.val.toNat ≤ 0x7f := by omega
  have h₂ : ¬ c.val.toNat ≤ 0x7ff := by omega
  simp only [String.utf8EncodeChar, if_neg h₁, if_neg h₂, if_neg (Nat.not_le.2 h)]

theorem isContinuation_ofNat (n : Nat) : isContinuation (UInt8.ofNat (n % 0x40 + 0x80)) = true := by
  have h : n % 0x40 < 0x40 := Nat.mod_lt n (by omega)
  simp only [isContinuation, Bool.and_eq_true, decide_eq_true_eq, UInt8.le_iff_toNat_le,
    UInt8.toNat_ofNat', UInt8.toNat_ofNat]
  omega

/-- The scalar values are the numbers up to U+10FFFF without the surrogates. -/
theorem toNat_bounds (c : Char) :
    (c.toNat < 0xd800 ∨ 0xdfff < c.toNat) ∧ c.toNat < 0x110000 := by
  have h := c.valid
  simp only [UInt32.isValidChar, Nat.isValidChar] at h
  simp only [Char.toNat]
  omega

theorem toNat_ofNat {n : Nat} (h : n < 0xd800 ∨ 0xdfff < n) (h' : n < 0x110000) :
    (Char.ofNat n).toNat = n := by
  have hv : n.isValidChar := h.imp id fun h => ⟨h, h'⟩
  have hofNat : Char.ofNat n = Char.ofNatAux n hv := dif_pos hv
  rw [hofNat]
  rfl

theorem eq_assemble {c : Char} {lead : Nat} {followers : Bytes}
    (h : followers.foldl (fun n b => n * 64 + (b.toNat - 0x80)) lead = c.toNat) :
    c = assemble lead followers := by
  rw [assemble, h, Char.ofNat_toNat]

theorem toNat_ofNat_mod (n : Nat) :
    (UInt8.ofNat (n % 0x40 + 0x80)).toNat = n % 0x40 + 0x80 := by
  rw [UInt8.toNat_ofNat']
  omega

theorem toNat_ite (b k x y : UInt8) :
    (if b = k then x else y).toNat = if b.toNat = k.toNat then x.toNat else y.toNat := by
  rw [apply_ite UInt8.toNat]
  simp only [UInt8.toNat_inj]

theorem scan_encodeChar_one {c : Char} (h : c.toNat ≤ 0x7f) (rest : Bytes) :
    scan (UInt8.ofNat c.toNat) rest = .scalar c 0 := by
  have hb : (UInt8.ofNat c.toNat).toNat = c.toNat := by
    rw [UInt8.toNat_ofNat']
    omega
  have hlow : UInt8.ofNat c.toNat < 0x80 := by
    rw [UInt8.lt_iff_toNat_lt, hb]
    exact Nat.lt_succ_of_le h
  rw [scan, if_pos hlow, hb, Char.ofNat_toNat]

theorem scan_encodeChar_two {c : Char} (h : 0x7f < c.toNat) (h' : c.toNat ≤ 0x7ff)
    (rest : Bytes) :
    scan (UInt8.ofNat (c.toNat / 64 % 0x20 + 0xc0))
      (UInt8.ofNat (c.toNat % 0x40 + 0x80) :: rest) = .scalar c 1 := by
  have hb : (UInt8.ofNat (c.toNat / 64 % 0x20 + 0xc0)).toNat = c.toNat / 64 + 0xc0 := by
    rw [UInt8.toNat_ofNat']
    omega
  have hx := toNat_ofNat_mod c.toNat
  generalize UInt8.ofNat (c.toNat / 64 % 0x20 + 0xc0) = b at hb ⊢
  generalize UInt8.ofNat (c.toNat % 0x40 + 0x80) = x at hx ⊢
  refine (scan_eq_scalar_iff ?_).2 ⟨0x80, 0xbf, x, rest, followersOf_one ?_ ?_, rfl, ?_, ?_,
    Nat.zero_le _, by simp, eq_assemble ?_⟩
  case refine_6 =>
    simp only [leadBits, hb, hx, Nat.sub_self, List.take_zero, List.foldl, if_true]
    omega
  all_goals
    simp only [UInt8.le_iff_toNat_le, hb, hx, UInt8.reduceToNat]
    omega

theorem scan_encodeChar_three {c : Char} (h : 0x7ff < c.toNat) (h' : c.toNat ≤ 0xffff)
    (rest : Bytes) :
    scan (UInt8.ofNat (c.toNat / 4096 % 0x10 + 0xe0))
      (UInt8.ofNat (c.toNat / 64 % 0x40 + 0x80) :: UInt8.ofNat (c.toNat % 0x40 + 0x80) :: rest) =
        .scalar c 2 := by
  have hc := toNat_bounds c
  have hb : (UInt8.ofNat (c.toNat / 4096 % 0x10 + 0xe0)).toNat = c.toNat / 4096 + 0xe0 := by
    rw [UInt8.toNat_ofNat']
    omega
  have hx := toNat_ofNat_mod (c.toNat / 64)
  have hy := toNat_ofNat_mod c.toNat
  have hgood := isContinuation_ofNat c.toNat
  generalize UInt8.ofNat (c.toNat / 4096 % 0x10 + 0xe0) = b at hb ⊢
  generalize UInt8.ofNat (c.toNat / 64 % 0x40 + 0x80) = x at hx ⊢
  generalize UInt8.ofNat (c.toNat % 0x40 + 0x80) = y at hy hgood ⊢
  refine (scan_eq_scalar_iff ?_).2 ⟨_, _, x, y :: rest, followersOf_two ?_ ?_, rfl, ?_, ?_,
    by simp, by simpa using hgood, eq_assemble ?_⟩
  case refine_6 =>
    simp only [leadBits, hb, hx, hy, Nat.add_one_sub_one, List.take_succ_cons, List.take_zero,
      List.foldl, Nat.reduceEqDiff, if_false, if_true]
    omega
  all_goals
    simp only [UInt8.le_iff_toNat_le, toNat_ite, hb, hx, UInt8.reduceToNat]
    try split
    all_goals omega

theorem scan_encodeChar_four {c : Char} (h : 0xffff < c.toNat) (rest : Bytes) :
    scan (UInt8.ofNat (c.toNat / 262144 % 0x08 + 0xf0))
      (UInt8.ofNat (c.toNat / 4096 % 0x40 + 0x80) :: UInt8.ofNat (c.toNat / 64 % 0x40 + 0x80) ::
        UInt8.ofNat (c.toNat % 0x40 + 0x80) :: rest) = .scalar c 3 := by
  have hc := toNat_bounds c
  have hb : (UInt8.ofNat (c.toNat / 262144 % 0x08 + 0xf0)).toNat = c.toNat / 262144 + 0xf0 := by
    rw [UInt8.toNat_ofNat']
    omega
  have hx := toNat_ofNat_mod (c.toNat / 4096)
  have hy := toNat_ofNat_mod (c.toNat / 64)
  have hz := toNat_ofNat_mod c.toNat
  have hgood := isContinuation_ofNat (c.toNat / 64)
  have hgood' := isContinuation_ofNat c.toNat
  generalize UInt8.ofNat (c.toNat / 262144 % 0x08 + 0xf0) = b at hb ⊢
  generalize UInt8.ofNat (c.toNat / 4096 % 0x40 + 0x80) = x at hx ⊢
  generalize UInt8.ofNat (c.toNat / 64 % 0x40 + 0x80) = y at hy hgood ⊢
  generalize UInt8.ofNat (c.toNat % 0x40 + 0x80) = z at hz hgood' ⊢
  refine (scan_eq_scalar_iff ?_).2 ⟨_, _, x, y :: z :: rest, followersOf_three ?_ ?_, rfl, ?_,
    ?_, by simp, by simpa using ⟨hgood, hgood'⟩, eq_assemble ?_⟩
  case refine_6 =>
    simp only [leadBits, hb, hx, hy, hz, Nat.add_one_sub_one, List.take_succ_cons, List.take_zero,
      List.foldl, Nat.reduceEqDiff, if_false]
    omega
  all_goals
    simp only [UInt8.le_iff_toNat_le, toNat_ite, hb, hx, UInt8.reduceToNat]
    try split
    all_goals omega

/-- A character is scanned from what it is written as, whatever follows. -/
theorem scan_encodeChar (c : Char) (rest : Bytes) :
    ∃ b more, String.utf8EncodeChar c = b :: more ∧
      scan b (more ++ rest) = .scalar c more.length := by
  by_cases h₁ : c.toNat ≤ 0x7f
  · exact ⟨_, _, encodeChar_one h₁, scan_encodeChar_one h₁ rest⟩
  by_cases h₂ : c.toNat ≤ 0x7ff
  · exact ⟨_, _, encodeChar_two (by omega) h₂, scan_encodeChar_two (by omega) h₂ rest⟩
  by_cases h₃ : c.toNat ≤ 0xffff
  · exact ⟨_, _, encodeChar_three (by omega) h₃, scan_encodeChar_three (by omega) h₃ rest⟩
  · exact ⟨_, _, encodeChar_four (by omega), scan_encodeChar_four (by omega) rest⟩

theorem isContinuation_iff (b : UInt8) :
    isContinuation b = true ↔ 0x80 ≤ b.toNat ∧ b.toNat ≤ 0xbf := by
  simp only [isContinuation, Bool.and_eq_true, decide_eq_true_eq, UInt8.le_iff_toNat_le,
    UInt8.reduceToNat]

theorem encodeChar_assemble_two {b x : UInt8} (hb : 0xc2 ≤ b.toNat) (hb' : b.toNat ≤ 0xdf)
    (hx : 0x80 ≤ x.toNat) (hx' : x.toNat ≤ 0xbf) :
    String.utf8EncodeChar (assemble (leadBits 1 b) [x]) = [b, x] := by
  have hn : (assemble (leadBits 1 b) [x]).toNat = b.toNat % 32 * 64 + (x.toNat - 0x80) :=
    toNat_ofNat (.inl (by simp only [leadBits, List.foldl, if_true]; omega))
      (by simp only [leadBits, List.foldl, if_true]; omega)
  rw [encodeChar_two (by omega) (by omega), hn]
  simp only [List.cons.injEq, ← UInt8.toNat_inj, UInt8.toNat_ofNat', and_true]
  omega

theorem encodeChar_assemble_three {b x y : UInt8} (hb : 0xe0 ≤ b.toNat) (hb' : b.toNat ≤ 0xef)
    (hx : (if b.toNat = 0xe0 then 0xa0 else 0x80) ≤ x.toNat)
    (hx' : x.toNat ≤ if b.toNat = 0xed then 0x9f else 0xbf)
    (hy : 0x80 ≤ y.toNat) (hy' : y.toNat ≤ 0xbf) :
    String.utf8EncodeChar (assemble (leadBits 2 b) [x, y]) = [b, x, y] := by
  have hn : (assemble (leadBits 2 b) [x, y]).toNat =
      (b.toNat % 16 * 64 + (x.toNat - 0x80)) * 64 + (y.toNat - 0x80) := by
    refine toNat_ofNat ?_ ?_
    all_goals
      simp only [leadBits, List.foldl, Nat.reduceEqDiff, if_false, if_true]
      split at hx <;> split at hx' <;> omega
  rw [encodeChar_three (by rw [hn]; split at hx <;> omega)
    (by rw [hn]; split at hx' <;> omega), hn]
  simp only [List.cons.injEq, ← UInt8.toNat_inj, UInt8.toNat_ofNat', and_true]
  split at hx <;> split at hx' <;> omega

theorem encodeChar_assemble_four {b x y z : UInt8} (hb : 0xf0 ≤ b.toNat) (hb' : b.toNat ≤ 0xf4)
    (hx : (if b.toNat = 0xf0 then 0x90 else 0x80) ≤ x.toNat)
    (hx' : x.toNat ≤ if b.toNat = 0xf4 then 0x8f else 0xbf)
    (hy : 0x80 ≤ y.toNat) (hy' : y.toNat ≤ 0xbf) (hz : 0x80 ≤ z.toNat) (hz' : z.toNat ≤ 0xbf) :
    String.utf8EncodeChar (assemble (leadBits 3 b) [x, y, z]) = [b, x, y, z] := by
  have hn : (assemble (leadBits 3 b) [x, y, z]).toNat =
      ((b.toNat % 8 * 64 + (x.toNat - 0x80)) * 64 + (y.toNat - 0x80)) * 64 + (z.toNat - 0x80) := by
    refine toNat_ofNat ?_ ?_
    all_goals
      simp only [leadBits, List.foldl, Nat.reduceEqDiff, if_false]
      split at hx <;> split at hx' <;> omega
  rw [encodeChar_four (by rw [hn]; split at hx <;> omega), hn]
  simp only [List.cons.injEq, ← UInt8.toNat_inj, UInt8.toNat_ofNat', and_true]
  split at hx <;> split at hx' <;> omega

/-- The bytes that were used to scan a character are those that it is written as. -/
theorem encodeChar_of_scan {b : UInt8} {rest : Bytes} {c : Char} {extra : Nat}
    (h : scan b rest = .scalar c extra) :
    extra ≤ rest.length ∧ String.utf8EncodeChar c = b :: rest.take extra := by
  by_cases hlow : b < 0x80
  · rw [scan, if_pos hlow, Scan.scalar.injEq] at h
    obtain ⟨rfl, rfl⟩ := h
    have hb : b.toNat < 0x80 := UInt8.lt_iff_toNat_lt.1 hlow
    have hn : (Char.ofNat b.toNat).toNat = b.toNat := toNat_ofNat (.inl (by omega)) (by omega)
    rw [encodeChar_one (by omega), hn]
    simp
  obtain ⟨low, high, x, more, hf, rfl, hl, hh, hlen, hgood, rfl⟩ :=
    (scan_eq_scalar_iff (UInt8.not_lt.1 hlow)).1 h
  rw [UInt8.le_iff_toNat_le] at hl hh
  by_cases h₁ : b < 0xc2
  · simp [followersOf_none (.inl h₁)] at hf
  by_cases h₂ : b ≤ 0xdf
  · have hb := UInt8.not_lt.1 h₁
    rw [followersOf_one hb h₂] at hf
    simp only [Option.some.injEq, Prod.mk.injEq] at hf
    obtain ⟨rfl, rfl, rfl⟩ := hf
    exact ⟨by simp, by simpa using encodeChar_assemble_two hb h₂ hl hh⟩
  by_cases h₃ : b ≤ 0xef
  · have hb : 0xe0 ≤ b := UInt8.le_iff_toNat_le.2 (UInt8.lt_iff_toNat_lt.1 (UInt8.not_le.1 h₂))
    rw [followersOf_two hb h₃] at hf
    simp only [Option.some.injEq, Prod.mk.injEq] at hf
    obtain ⟨rfl, rfl, rfl⟩ := hf
    obtain ⟨y, more, rfl⟩ := List.exists_cons_of_length_pos hlen
    have hy := (isContinuation_iff y).1 (hgood y (by simp))
    rw [toNat_ite] at hl hh
    exact ⟨by simp, by simpa using encodeChar_assemble_three hb h₃ hl hh hy.1 hy.2⟩
  by_cases h₄ : b ≤ 0xf4
  · have hb : 0xf0 ≤ b := UInt8.le_iff_toNat_le.2 (UInt8.lt_iff_toNat_lt.1 (UInt8.not_le.1 h₃))
    rw [followersOf_three hb h₄] at hf
    simp only [Option.some.injEq, Prod.mk.injEq] at hf
    obtain ⟨rfl, rfl, rfl⟩ := hf
    obtain ⟨y, more, rfl⟩ := List.exists_cons_of_length_pos (Nat.lt_of_lt_of_le Nat.two_pos hlen)
    obtain ⟨z, more, rfl⟩ := List.exists_cons_of_length_pos (Nat.succ_le_succ_iff.1 hlen)
    have hy := (isContinuation_iff y).1 (hgood y (by simp))
    have hz := (isContinuation_iff z).1 (hgood z (by simp))
    rw [toNat_ite] at hl hh
    exact ⟨by simp,
      by simpa using encodeChar_assemble_four hb h₄ hl hh hy.1 hy.2 hz.1 hz.2⟩
  · simp [followersOf_none (.inr (UInt8.not_le.1 h₄))] at hf

/-! ### Whole texts -/

theorem encode_ofList (cs : List Char) :
    encode (String.ofList cs) = cs.flatMap String.utf8EncodeChar := by
  rw [encode, String.toList_ofList]

@[simp] theorem encode_empty : encode "" = [] := rfl

theorem encode_append (s t : String) : encode (s ++ t) = encode s ++ encode t := by
  simp [encode]

theorem decodeFrom_encode (index : Nat) (passed cs : List Char) :
    decodeFrom index passed (cs.flatMap String.utf8EncodeChar) = .ok (passed.reverse ++ cs) := by
  induction cs generalizing index passed with
  | nil => simp [decodeFrom]
  | cons c cs ih =>
      obtain ⟨b, more, hc, hscan⟩ := scan_encodeChar c (cs.flatMap String.utf8EncodeChar)
      rw [List.flatMap_cons, hc, List.cons_append, decodeFrom, hscan]
      simp [ih]

theorem encode_of_decodeFrom {index : Nat} {passed cs : List Char} {s : Bytes}
    (h : decodeFrom index passed s = .ok cs) :
    ∃ ds, cs = passed.reverse ++ ds ∧ ds.flatMap String.utf8EncodeChar = s := by
  fun_induction decodeFrom index passed s with
  | case1 index passed =>
      obtain rfl := Except.ok.inj h
      exact ⟨[], by simp⟩
  | case2 index passed b rest c extra hscan ih =>
      obtain ⟨ds, rfl, hds⟩ := ih h
      refine ⟨c :: ds, by simp, ?_⟩
      rw [List.flatMap_cons, (encodeChar_of_scan hscan).2, hds, List.cons_append,
        List.take_append_drop]
  | case3 => simp at h
  | case4 => simp at h

/-- Bytes are read as exactly the text that they are written as. -/
theorem decode?_eq_some_iff {s : Bytes} {t : String} : decode? s = some t ↔ encode t = s := by
  constructor
  · intro h
    rw [decode?, decode] at h
    cases hd : decodeFrom 0 [] s with
    | error e => simp [hd, Except.map, Except.toOption] at h
    | ok cs =>
        obtain ⟨ds, rfl, hds⟩ := encode_of_decodeFrom hd
        simp only [hd, Except.map, Except.toOption, Option.some.injEq] at h
        rw [← h, encode_ofList]
        exact hds
  · rintro rfl
    rw [decode?, decode, encode, decodeFrom_encode]
    simp [Except.map, Except.toOption]

theorem decodeLossyFrom_encode (passed cs : List Char) :
    decodeLossyFrom passed (cs.flatMap String.utf8EncodeChar) = passed.reverse ++ cs := by
  induction cs generalizing passed with
  | nil => simp [decodeLossyFrom]
  | cons c cs ih =>
      obtain ⟨b, more, hc, hscan⟩ := scan_encodeChar c (cs.flatMap String.utf8EncodeChar)
      rw [List.flatMap_cons, hc, List.cons_append, decodeLossyFrom, hscan]
      simp [ih]

/-- In what a text is written as there is nothing to replace. -/
@[simp] theorem decodeLossy_encode (t : String) : decodeLossy (encode t) = t := by
  rw [decodeLossy, encode, decodeLossyFrom_encode, List.reverse_nil, List.nil_append,
    String.ofList_toList]

/-- An ASCII byte stands for nothing but its character. -/
theorem mem_encodeChar_iff {b : UInt8} (hb : b.toNat < 0x80) (c : Char) :
    b ∈ String.utf8EncodeChar c ↔ c.toNat = b.toNat := by
  have hbyte : ∀ n, b = UInt8.ofNat n ↔ b.toNat = n % 256 := fun n => by
    rw [← UInt8.toNat_inj, UInt8.toNat_ofNat']
  by_cases h₁ : c.toNat ≤ 0x7f
  · rw [encodeChar_one h₁, List.mem_singleton, hbyte]
    omega
  by_cases h₂ : c.toNat ≤ 0x7ff
  · rw [encodeChar_two (by omega) h₂]
    simp only [List.mem_cons, List.not_mem_nil, or_false, hbyte]
    omega
  by_cases h₃ : c.toNat ≤ 0xffff
  · rw [encodeChar_three (by omega) h₃]
    simp only [List.mem_cons, List.not_mem_nil, or_false, hbyte]
    omega
  · rw [encodeChar_four (by omega)]
    simp only [List.mem_cons, List.not_mem_nil, or_false, hbyte]
    omega

theorem mem_encode_iff {b : UInt8} (hb : b.toNat < 0x80) (s : String) :
    b ∈ encode s ↔ ∃ c ∈ s.toList, c.toNat = b.toNat := by
  simp only [encode, List.mem_flatMap, mem_encodeChar_iff hb]

@[simp] theorem decode?_encode (t : String) : decode? (encode t) = some t :=
  decode?_eq_some_iff.2 rfl

/-- Different texts are written differently. -/
theorem encode_injective : Function.Injective encode := by
  intro s t h
  have hs := decode?_encode s
  rw [h, decode?_encode] at hs
  exact (Option.some.inj hs).symm

end ServiceDispatch.Utf8
