import ServiceDispatch.Text.Utf8

/-!
# Digits of base sixteen

Escapes in texts and forms are written with digits of base sixteen. Read, their letters
may be small or capital; `digits` and `encode` write small ones. `decode?` reads back
what `encode` writes.
-/

namespace ServiceDispatch.Hex

/-- The value of a byte that is a digit. -/
def value? (b : UInt8) : Option Nat :=
  if 48 ≤ b && b ≤ 57 then some (b.toNat - 48)
  else if 97 ≤ b && b ≤ 102 then some (b.toNat - 87)
  else if 65 ≤ b && b ≤ 70 then some (b.toNat - 55)
  else none

/-- The byte that two digits write. -/
def byte? (x y : UInt8) : Option UInt8 :=
  match value? x, value? y with
  | some h, some l => some (UInt8.ofNat (h * 16 + l))
  | _, _ => none

/-- The digits of a number, with zeros in front up to the given width. -/
def digits (width n : Nat) : List Char := (Nat.toDigits 16 n).leftpad width '0'

/-- The two digits of a byte. -/
def byteDigits (b : UInt8) : List Char :=
  [Nat.digitChar (b.toNat / 16), Nat.digitChar (b.toNat % 16)]

/-- The digits of bytes, two for each. -/
def encode (s : Bytes) : String := String.ofList (s.flatMap byteDigits)

/-- The bytes that pairs of digits write. -/
def decodePairs? : Bytes → Option Bytes
  | [] => some []
  | x :: y :: s => match byte? x y, decodePairs? s with
    | some b, some bs => some (b :: bs)
    | _, _ => none
  | [_] => none

/-- The bytes that the digits in a text write. -/
def decode? (s : String) : Option Bytes := decodePairs? (Utf8.encode s)

/-- The byte that the two bytes of a text write. -/
def pair? : Bytes → Option UInt8
  | [x, y] => byte? x y
  | _ => none

theorem pair?_byteDigits (b : UInt8) :
    pair? ((byteDigits b).flatMap String.utf8EncodeChar) = some b := by
  have h : ∀ n : Fin 256, pair? ((byteDigits (UInt8.ofNat n)).flatMap String.utf8EncodeChar) =
      some (UInt8.ofNat n) := by decide +kernel
  simpa using h ⟨b.toNat, b.toNat_lt⟩

theorem decode?_encode (s : Bytes) : decode? (encode s) = some s := by
  rw [decode?, encode, Utf8.encode, String.toList_ofList]
  induction s with
  | nil => rfl
  | cons b s ih =>
    have h := pair?_byteDigits b
    rw [List.flatMap_cons, List.flatMap_append]
    match hp : (byteDigits b).flatMap String.utf8EncodeChar with
    | [x, y] => rw [hp, pair?] at h; simp [decodePairs?, h, ih]
    | [] => simp [hp, pair?] at h
    | [_] => simp [hp, pair?] at h
    | _ :: _ :: _ :: _ => simp [hp, pair?] at h

end ServiceDispatch.Hex
