import ServiceDispatch.Number.Binary
import ServiceDispatch.Text.Ascii

/-!
# Floating-point texts

`BinaryFormat.read` reads a decimal text, with or without point and exponent,
into the nearest number of a format. Infinity and not-a-number have names, in any
case of letters, and a magnitude beyond the format is infinity.
-/

namespace ServiceDispatch

/-- Why a text is no floating-point number. -/
inductive FloatingError where
  | empty
  | invalid
  deriving DecidableEq, Repr

def FloatingError.message : FloatingError → String
  | .empty => "cannot parse float from empty string"
  | .invalid => "invalid float literal"

namespace Floating

/-- A leading sign, as whether it is a minus, and the rest. -/
def sign : List Char → Bool × List Char
  | '-' :: cs => (true, cs)
  | '+' :: cs => (false, cs)
  | cs => (false, cs)

/-- The number that ASCII digits write. -/
def natOf (cs : List Char) : Nat := cs.foldl (fun n c => 10 * n + (c.toNat - 48)) 0

/-- The exponent that a text ends with: nothing, or a mark, a sign and digits. -/
def exponent? : List Char → Option Int
  | [] => some 0
  | mark :: cs =>
    let (negative, ds) := sign cs
    if (mark == 'e' || mark == 'E') && !ds.isEmpty && ds.all Char.isDigit then
      some (if negative then -(natOf ds : Int) else natOf ds)
    else none

/-- An unsigned decimal as its digits and the power of ten they count. -/
def decimal? (cs : List Char) : Option (Nat × Int) :=
  let whole := cs.takeWhile Char.isDigit
  let (places, tail) := match cs.dropWhile Char.isDigit with
    | '.' :: rest => (rest.takeWhile Char.isDigit, rest.dropWhile Char.isDigit)
    | rest => ([], rest)
  if whole.isEmpty && places.isEmpty then none
  else (exponent? tail).map fun e => (natOf (whole ++ places), e - places.length)

/-- The pattern of an unsigned text. -/
def unsigned? (f : BinaryFormat) (cs : List Char) : Option Nat :=
  let name := cs.map Char.toLower
  if name == "inf".toList || name == "infinity".toList then some f.infinity
  else if name == "nan".toList then some f.notANumber
  else (decimal? cs).map fun d => f.roundDecimal d.1 d.2

end Floating

namespace BinaryFormat

/-- The pattern, sign included, of the number that a text writes. -/
def readChars (f : BinaryFormat) (cs : List Char) : Except FloatingError Nat :=
  if cs.isEmpty then .error .empty
  else
    let (negative, body) := Floating.sign cs
    match Floating.unsigned? f body with
    | some pattern => .ok (if negative then f.signBit + pattern else pattern)
    | none => .error .invalid

def read (f : BinaryFormat) (s : String) : Except FloatingError Nat := f.readChars s.toList

/-- The patterns of not-a-number, of either sign. -/
def isNotANumber (f : BinaryFormat) (pattern : Nat) : Bool :=
  f.infinity < pattern % f.signBit

end BinaryFormat

end ServiceDispatch
