import ServiceDispatch.Text.Cut
import ServiceDispatch.Text.Hex

/-!
# Url-encoded forms

A form is a sequence of pairs of texts. `parse` reads any bytes: parts between
ampersands are split at the first equals sign, a plus stands for a space, `%` and
two hexadecimal digits stand for a byte, and bytes that are no UTF-8 turn into
U+FFFD. `render` writes pairs so that `parse` gives them back.
-/

namespace ServiceDispatch.UrlEncoded

/-- A space for each plus. -/
def plusToSpace (s : Bytes) : Bytes := s.map fun b => if b = 43 then 32 else b

/-- Bytes for their escapes; a `%` that begins no escape stands for itself. -/
def percentDecode : Bytes → Bytes
  | [] => []
  | [b] => [b]
  | [b, x] => [b, x]
  | b :: x :: y :: s =>
    if b = 37 then
      match Hex.byte? x y with
      | some c => c :: percentDecode s
      | none => b :: percentDecode (x :: y :: s)
    else b :: percentDecode (x :: y :: s)

/-- The text that a name or a value writes. -/
def decodeText (s : Bytes) : String := Utf8.decodeLossy (percentDecode (plusToSpace s))

/-- The pair that the part between two ampersands writes. -/
def decodePair (s : Bytes) : String × String :=
  match Text.cut? [61] s with
  | some (name, value) => (decodeText name, decodeText value)
  | none => (decodeText s, "")

/-- The pairs of a form, in order; empty parts write none. -/
def parse (s : Bytes) : List (String × String) :=
  ((Text.pieces [38] s).filter fun p => !p.isEmpty).map decodePair

/-- Bytes that stand for themselves: letters, digits and four marks. -/
def isUnreserved (b : UInt8) : Bool :=
  (48 ≤ b && b ≤ 57) || (65 ≤ b && b ≤ 90) || (97 ≤ b && b ≤ 122) ||
    b == 42 || b == 45 || b == 46 || b == 95

/-- A digit of base sixteen, capital letters. -/
def hexByte (n : UInt8) : UInt8 := if n < 10 then n + 48 else n + 55

def encodeByte (b : UInt8) : Bytes :=
  if isUnreserved b then [b]
  else if b = 32 then [43]
  else [37, hexByte (b / 16), hexByte (b % 16)]

def encodeText (s : String) : Bytes := (Utf8.encode s).flatMap encodeByte

def encodePair (p : String × String) : Bytes := encodeText p.1 ++ 61 :: encodeText p.2

/-- The form with the given pairs. -/
def render (pairs : List (String × String)) : Bytes := [38].intercalate (pairs.map encodePair)

end ServiceDispatch.UrlEncoded
