import ServiceDispatch.UrlEncoded
import ServiceDispatch.Proofs.Text.Cut
import ServiceDispatch.Proofs.Text.Utf8

/-!
# Url-encoded pairs

What `render` writes, `parse` reads back (`parse_render`): any texts, empty ones included. Neither
an ampersand nor an equals sign is left in a text that is written, so the pairs are found again
where they were put, and no pair is an empty part, since it has its equals sign.
-/

namespace ServiceDispatch.UrlEncoded

/-! ### Texts -/

theorem percentDecode_cons_of_ne {b : UInt8} (h : b ≠ 37) (s : Bytes) :
    percentDecode (b :: s) = b :: percentDecode s := by
  match s with
  | [] => rfl
  | [_] => rfl
  | _ :: _ :: _ => rw [percentDecode, if_neg h]

theorem percentDecode_escape {x y c : UInt8} (h : Hex.byte? x y = some c) (s : Bytes) :
    percentDecode (37 :: x :: y :: s) = c :: percentDecode s := by
  rw [percentDecode, if_pos rfl, h]

theorem forall_of_fin {p : UInt8 → Prop} (h : ∀ n : Fin 256, p (UInt8.ofNat n)) (b : UInt8) :
    p b := by
  simpa using h ⟨b.toNat, b.toNat_lt⟩

/-- The two digits of an escape are no pluses and stand for the byte that is escaped. -/
theorem byte?_hexByte : ∀ b : UInt8,
    Hex.byte? (hexByte (b / 16)) (hexByte (b % 16)) = some b ∧
      hexByte (b / 16) ≠ 43 ∧ hexByte (b % 16) ≠ 43 :=
  forall_of_fin (by decide +kernel)

/-- Neither separator is among what a byte is written as. -/
theorem separators_not_mem_encodeByte : ∀ b : UInt8, 38 ∉ encodeByte b ∧ 61 ∉ encodeByte b :=
  forall_of_fin (by decide +kernel)

theorem isUnreserved_ne {b : UInt8} (h : isUnreserved b = true) : b ≠ 37 ∧ b ≠ 43 := by
  constructor
  all_goals
    rintro rfl
    exact absurd h (by decide)

/-- A byte is read back from what it is written as, whatever follows. -/
theorem percentDecode_encodeByte (b : UInt8) (s : Bytes) :
    percentDecode (plusToSpace (encodeByte b ++ s)) = b :: percentDecode (plusToSpace s) := by
  rw [encodeByte]
  split
  · next h =>
    obtain ⟨hescape, hplus⟩ := isUnreserved_ne h
    rw [List.singleton_append, plusToSpace, List.map_cons, if_neg hplus,
      percentDecode_cons_of_ne hescape, plusToSpace]
  · split
    · next h =>
      rw [List.singleton_append, plusToSpace, List.map_cons, if_pos rfl, h]
      exact percentDecode_cons_of_ne (by decide) _
    · obtain ⟨hbyte, hhigh, hlow⟩ := byte?_hexByte b
      have hescape : plusToSpace ([37, hexByte (b / 16), hexByte (b % 16)] ++ s) =
          37 :: hexByte (b / 16) :: hexByte (b % 16) :: plusToSpace s := by
        simp [plusToSpace, hhigh, hlow]
      rw [hescape, percentDecode_escape hbyte]

theorem percentDecode_flatMap_encodeByte (s : Bytes) :
    percentDecode (plusToSpace (s.flatMap encodeByte)) = s := by
  induction s with
  | nil => rfl
  | cons b s ih => rw [List.flatMap_cons, percentDecode_encodeByte, ih]

@[simp] theorem decodeText_encodeText (s : String) : decodeText (encodeText s) = s := by
  rw [decodeText, encodeText, percentDecode_flatMap_encodeByte, Utf8.decodeLossy_encode]

theorem separators_not_mem_encodeText (s : String) : 38 ∉ encodeText s ∧ 61 ∉ encodeText s := by
  simp only [encodeText, List.mem_flatMap, not_exists, not_and]
  exact ⟨fun b _ => (separators_not_mem_encodeByte b).1,
    fun b _ => (separators_not_mem_encodeByte b).2⟩

/-! ### Pairs -/

theorem decodePair_encodePair (p : String × String) : decodePair (encodePair p) = p := by
  have hname : ¬ [61] <:+: encodeText p.1 := fun h =>
    (separators_not_mem_encodeText p.1).2 (h.subset List.mem_cons_self)
  have hcut := Text.CutsAt.of_head List.not_mem_nil hname (encodeText p.2)
  have hpair : Text.cut? [61] (encodePair p) = some (encodeText p.1, encodeText p.2) :=
    hcut.cut?_eq
  rw [decodePair, hpair]
  simp only [decodeText_encodeText]

theorem separator_not_mem_encodePair (p : String × String) : 38 ∉ encodePair p := by
  rw [encodePair, List.mem_append, List.mem_cons, not_or, not_or]
  exact ⟨(separators_not_mem_encodeText p.1).1, by decide, (separators_not_mem_encodeText p.2).1⟩

theorem pieces_render {pairs : List (String × String)} (h : pairs ≠ []) :
    Text.pieces [38] (render pairs) = pairs.map encodePair := by
  refine (Text.pieces_eq_iff List.not_mem_nil).2 ⟨by simpa using h, rfl, fun part hpart hsep => ?_⟩
  obtain ⟨p, -, rfl⟩ := List.mem_map.1 hpart
  exact separator_not_mem_encodePair p (hsep.subset List.mem_cons_self)

/-- The pairs of a form come back as they were written. -/
theorem parse_render (pairs : List (String × String)) : parse (render pairs) = pairs := by
  by_cases h : pairs = []
  · subst h
    have hnone : Text.pieces [38] (render []) = [[]] := Text.pieces_eq_singleton rfl
    rw [parse, hnone]
    rfl
  have hparts : ∀ part ∈ pairs.map encodePair, (!part.isEmpty) = true := by
    intro part hpart
    obtain ⟨p, -, rfl⟩ := List.mem_map.1 hpart
    simp [encodePair]
  rw [parse, pieces_render h, List.filter_eq_self.2 hparts, List.map_map]
  calc pairs.map (decodePair ∘ encodePair) = pairs.map id :=
        List.map_congr_left fun p _ => decodePair_encodePair p
    _ = pairs := List.map_id pairs

end ServiceDispatch.UrlEncoded
