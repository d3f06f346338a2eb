import ServiceDispatch.Number.Binary

/-!
# Shortest decimal text of a binary number

`Shortest.digits` finds the fewest decimal digits that read back as a given
number, and of these the nearest to it. For one digit, two digits and so on it
takes the two neighbours of the value on that decimal grid and asks whether one
of them reads back; if a point of the grid does, one of the neighbours does.

How the digits are laid out is a matter of its own: `positional` never uses an
exponent, `layout` uses one for very large and very small numbers.
-/

namespace ServiceDispatch.Shortest

/-- The exponent of the leading decimal digit of `num / den`, searched from a
guess that is at most a few too large. -/
def leadingExponent (num den : Nat) : Int :=
  if den ≤ num then (Nat.toDigits 10 (num / den)).length - 1
  else
    -- the least power of ten that lifts the fraction to one or more
    let guess := (Nat.toDigits 10 (den / num)).length
    if num * Nat.pow 10 (guess - 1) < den then -(guess : Int) else -((guess : Int) - 1)

/-- The pattern of `n · 10 ^ exponent`. -/
def reads (f : BinaryFormat) (n : Nat) (exponent : Int) : Nat := f.roundDecimal n exponent

/-- The neighbour of `num / den` on the grid of multiples of `10 ^ exponent` that
reads back as `pattern`, the nearer one if both do. -/
def onGrid? (f : BinaryFormat) (pattern num den : Nat) (exponent : Int) : Option Nat :=
  let (num, den) := match exponent with
    | .ofNat k => (num, den * Nat.pow 10 k)
    | .negSucc k => (num * Nat.pow 10 (k + 1), den)
  let below := num / den
  let rest := num % den
  let lowOk := below != 0 && reads f below exponent == pattern
  let highOk := reads f (below + 1) exponent == pattern
  if lowOk && highOk then
    some (if den < 2 * rest || (den == 2 * rest && below % 2 == 1) then below + 1 else below)
  else if lowOk then some below
  else if highOk then some (below + 1)
  else none

/-- Tries grids of `count`, `count + 1`, … digits, at most `tries` of them. -/
def search (f : BinaryFormat) (pattern num den : Nat) (leading : Int) :
    Nat → Nat → Nat × Int
  | 0, count => (0, leading - count)
  | tries + 1, count =>
    let exponent := leading - (count - 1)
    match onGrid? f pattern num den exponent with
    | some n => (n, exponent)
    | none => search f pattern num den leading tries (count + 1)

/-- The digits of a positive finite pattern as a number, and the power of ten
that it is multiplied by. -/
def digits (f : BinaryFormat) (pattern : Nat) : Nat × Int :=
  let (num, den) := f.fraction pattern
  search f pattern num den (leadingExponent num den) 18 1

/-- Decimal digits without trailing zeros, and the exponent of the leading one. -/
def leadingForm (n : Nat) (exponent : Int) : List Char × Int :=
  let cs := Nat.toDigits 10 n
  let kept := (cs.reverse.dropWhile (· == '0')).reverse
  (kept, exponent + cs.length - 1)

/-- Digits with the leading one at `10 ^ leading`, in positional notation and with
at least one digit on either side of the point. -/
def positionalChars (cs : List Char) (leading : Int) : List Char :=
  match leading with
  | .ofNat k =>
    if k + 1 < cs.length then cs.take (k + 1) ++ '.' :: cs.drop (k + 1)
    else cs ++ List.replicate (k + 1 - cs.length) '0' ++ ['.', '0']
  | .negSucc k => '0' :: '.' :: List.replicate k '0' ++ cs

/-- Digits with an exponent: a point after the first digit if there are more. -/
def scientificChars (cs : List Char) (leading : Int) : List Char :=
  let mantissa := match cs with
    | [] => []
    | [c] => [c]
    | c :: more => c :: '.' :: more
  mantissa ++ 'e' :: (if leading < 0 then '-' else '+') :: Nat.toDigits 10 leading.natAbs

/-- The text of a finite number: positional exactly if `plain` holds of the
exponent of the leading digit. -/
def text (f : BinaryFormat) (plain : Int → Bool) (negative : Bool) (pattern : Nat) : String :=
  let body :=
    if pattern = 0 then ['0', '.', '0']
    else
      let (n, exponent) := digits f pattern
      let (cs, leading) := leadingForm n exponent
      if plain leading then positionalChars cs leading else scientificChars cs leading
  String.ofList (if negative then '-' :: body else body)

end ServiceDispatch.Shortest
