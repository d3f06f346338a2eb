/-!
# Binary floating point

A `BinaryFormat` has a significand of `precision` bits (the leading one counted)
and least exponent `leastExponent`: its finite numbers are `m · 2^e` with
`m < 2^precision` and `leastExponent ≤ e`. A number is kept as its bit pattern
without the sign. `round` gives the pattern nearest to a fraction, ties to the
even one, with infinity for what lies beyond the greatest number, and `fraction`
gives the value of a pattern, so that arithmetic is exact arithmetic followed by
one rounding.
-/

namespace ServiceDispatch

structure BinaryFormat where
  precision : Nat
  /-- The exponent of the last place of the least numbers, negated. -/
  scale : Nat
  /-- The width of the whole pattern, sign included. -/
  width : Nat
  deriving DecidableEq, Repr

namespace BinaryFormat

/-- Single precision. -/
def single : BinaryFormat := ⟨24, 149, 32⟩

/-- Double precision. -/
def double : BinaryFormat := ⟨53, 1074, 64⟩

/-- The pattern of infinity: all exponent bits set. -/
def infinity (f : BinaryFormat) : Nat :=
  Nat.pow 2 (f.width - 1) - Nat.pow 2 (f.precision - 1)

/-- The pattern of the quiet not-a-number without payload. -/
def notANumber (f : BinaryFormat) : Nat := f.infinity + Nat.pow 2 (f.precision - 2)

/-- The bit that negates. -/
def signBit (f : BinaryFormat) : Nat := Nat.pow 2 (f.width - 1)

/-- The integer nearest to `num / den`, ties to the even one. -/
def nearest (num den : Nat) : Nat :=
  let q := num / den
  let r := num % den
  if den < 2 * r || (den == 2 * r && q % 2 == 1) then q + 1 else q

/-- The exponent, counted from the least one, of the last place of the numbers
near `num / den`. -/
def exponentOf (f : BinaryFormat) (num den : Nat) : Nat :=
  -- `num / den` lies strictly between `2 ^ (a - b - 1)` and `2 ^ (a - b + 1)`
  let a := num.log2 + f.scale
  let b := den.log2 + (f.precision - 1)
  let guess := a - b
  if guess = 0 then 0
  else if num * Nat.pow 2 f.scale < den * Nat.pow 2 (guess + f.precision - 1) then guess - 1
  else guess

/-- The pattern nearest to `num / den`. -/
def round (f : BinaryFormat) (num den : Nat) : Nat :=
  if num = 0 then 0
  else
    let e := f.exponentOf num den
    let places := nearest (num * Nat.pow 2 f.scale) (den * Nat.pow 2 e)
    let pattern := e * Nat.pow 2 (f.precision - 1) + places
    min pattern f.infinity

/-- The significand of a finite pattern and its exponent counted from the least one. -/
def parts (f : BinaryFormat) (pattern : Nat) : Nat × Nat :=
  let half := Nat.pow 2 (f.precision - 1)
  let field := pattern / half
  if field = 0 then (pattern % half, 0) else (pattern % half + half, field - 1)

/-- The value of a finite pattern, as a fraction. -/
def fraction (f : BinaryFormat) (pattern : Nat) : Nat × Nat :=
  let (m, e) := f.parts pattern
  (m * Nat.pow 2 e, Nat.pow 2 f.scale)

/-- The pattern nearest to `digits · 10 ^ exponent`, with `exponent` an integer.
Magnitudes far outside the format are answered without computing the power. -/
def roundDecimal (f : BinaryFormat) (digits : Nat) (exponent : Int) : Nat :=
  let size : Int := (Nat.toDigits 10 digits).length + exponent
  if digits = 0 || size < -400 then 0
  else if 400 < size then f.infinity
  else match exponent with
    | .ofNat k => f.round (digits * Nat.pow 10 k) 1
    | .negSucc k => f.round digits (Nat.pow 10 (k + 1))

/-- The product of two finite numbers, rounded. -/
def mul (f : BinaryFormat) (a b : Nat) : Nat :=
  let x := f.fraction a
  let y := f.fraction b
  f.round (x.1 * y.1) (x.2 * y.2)

/-- The quotient of two finite numbers, the second not zero, rounded. -/
def div (f : BinaryFormat) (a b : Nat) : Nat :=
  let x := f.fraction a
  let y := f.fraction b
  f.round (x.1 * y.2) (x.2 * y.1)

end BinaryFormat

end ServiceDispatch
