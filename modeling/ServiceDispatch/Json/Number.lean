import ServiceDispatch.Json.Basic
import ServiceDispatch.Text.Utf8

/-!
# Reading the numbers of a value tree

An integer of up to 64 bits stays an integer. Every other number is a double: its
leading digits are collected as long as they fit in 64 bits, the power of ten that
is left over is applied by one multiplication or division, and each of these steps
rounds. A result beyond the greatest double is refused.
-/

namespace ServiceDispatch.Json

/-- What is wrong with a text that should write a value tree. -/
inductive Cause where
  | endInValue | endInList | endInObject | endInText
  | expectedColon | expectedListEnd | expectedObjectEnd | expectedName | expectedValue
  | keyNotText | trailingComma | trailingCharacters
  | invalidNumber | numberOutOfRange
  | invalidEscape | controlCharacter | invalidUnicode | loneSurrogate | endOfEscape
  | tooDeep
  deriving DecidableEq, Repr

def Cause.message : Cause → String
  | .endInValue => "EOF while parsing a value"
  | .endInList => "EOF while parsing a list"
  | .endInObject => "EOF while parsing an object"
  | .endInText => "EOF while parsing a string"
  | .expectedColon => "expected `:`"
  | .expectedListEnd => "expected `,` or `]`"
  | .expectedObjectEnd => "expected `,` or `\x7d`"
  | .expectedName => "expected ident"
  | .expectedValue => "expected value"
  | .keyNotText => "key must be a string"
  | .trailingComma => "trailing comma"
  | .trailingCharacters => "trailing characters"
  | .invalidNumber => "invalid number"
  | .numberOutOfRange => "number out of range"
  | .invalidEscape => "invalid escape"
  | .controlCharacter => "control character (\\u0000-\\u001F) found while parsing a string"
  | .invalidUnicode => "invalid unicode code point"
  | .loneSurrogate => "lone leading surrogate in hex escape"
  | .endOfEscape => "unexpected end of hex escape"
  | .tooDeep => "recursion limit exceeded"

/-- A cause and the bytes that had not been read when it was found. -/
structure Fault where
  cause : Cause
  rest : Bytes
  deriving DecidableEq, Repr

/-- What reading a part of a text gives: the part and the bytes after it. -/
abbrev Read (α : Type) := Except Fault (α × Bytes)

/-- A fault at the byte just read. -/
def faultAt {α : Type} (cause : Cause) (rest : Bytes) : Except Fault α := .error ⟨cause, rest⟩

/-- A fault at the byte that comes next, which counts as read. -/
def faultNext {α : Type} (cause : Cause) (rest : Bytes) : Except Fault α :=
  .error ⟨cause, rest.tail⟩

/-- The value of a byte that is an ASCII digit. -/
def byteDigit? (b : UInt8) : Option Nat :=
  if 48 ≤ b && b ≤ 57 then some (b.toNat - 48) else none

def startsWithDigit : Bytes → Bool
  | b :: _ => (byteDigit? b).isSome
  | [] => false

def isDigit (b : UInt8) : Bool := (byteDigit? b).isSome

/-- The bytes after the leading digits. -/
def skipDigits (s : Bytes) : Bytes := s.dropWhile isDigit

/-- The number of leading digits. -/
def countDigits (s : Bytes) : Nat := (s.takeWhile isDigit).length

/-- Extends `n` by the leading digits of `s` while the result is at most `bound`,
and counts them. -/
def takeDigits (bound n : Nat) (count : Nat) : Bytes → Nat × Nat × Bytes
  | [] => (n, count, [])
  | b :: s => match byteDigit? b with
    | none => (n, count, b :: s)
    | some d =>
      if bound < 10 * n + d then (n, count, b :: s)
      else takeDigits bound (10 * n + d) (count + 1) s

/-- The greatest number of 64 bits. -/
def greatestWord : Nat := IntegerFormat.word64.greatest

/-- The greatest exponent that is read. -/
def greatestExponent : Nat := Nat.pow 2 31 - 1

/-- The double nearest to a power of ten. -/
def powerOfTen (k : Nat) : Nat := BinaryFormat.double.round (Nat.pow 10 k) 1

/-- The greatest power of ten that is a double. -/
def greatestPower : Nat := 308

/-- A double divided by `10 ^ k`, in steps of the greatest power. -/
def scaleDown (pattern k : Nat) : Nat :=
  if k ≤ greatestPower then BinaryFormat.double.div pattern (powerOfTen k)
  else if pattern = 0 then 0
  else scaleDown (BinaryFormat.double.div pattern (powerOfTen greatestPower)) (k - greatestPower)
termination_by k
decreasing_by simp [greatestPower] at *; omega

/-- A double multiplied by `10 ^ k`, unless that is beyond the greatest double. -/
def scaleUp? (pattern k : Nat) : Option Nat :=
  if k ≤ greatestPower then
    let r := BinaryFormat.double.mul pattern (powerOfTen k)
    if r = BinaryFormat.double.infinity then none else some r
  else if pattern = 0 then some 0
  else none

/-- The number with the given sign, digits and power of ten. -/
def scaled (negative : Bool) (digits : Nat) (exponent : Int) (rest : Bytes) : Read JsonNumber :=
  let pattern := BinaryFormat.double.round digits 1
  match exponent with
  | .ofNat k => match scaleUp? pattern k with
    | some r => .ok (.double negative r, rest)
    | none => faultAt .numberOutOfRange rest
  | .negSucc k => .ok (.double negative (scaleDown pattern (k + 1)), rest)

/-- The sign in front of an exponent, as whether it is a minus. -/
def exponentSign : Bytes → Bool × Bytes
  | 43 :: s => (false, s)
  | 45 :: s => (true, s)
  | s => (false, s)

/-- Reads an exponent behind its mark. -/
def exponentPart (negative : Bool) (digits : Nat) (start : Int) (s : Bytes) : Read JsonNumber :=
  let (down, s) := exponentSign s
  match s with
  | [] => faultAt .endInValue []
  | b :: s => match byteDigit? b with
    | none => faultAt .invalidNumber s
    | some d =>
      let (e, _, rest) := takeDigits greatestExponent d 0 s
      if startsWithDigit rest then
        if digits ≠ 0 && !down then faultAt .numberOutOfRange rest.tail
        else .ok (.double negative 0, skipDigits rest)
      else scaled negative digits (if down then start - e else start + e) rest

/-- Reads what may follow the digits of a number: an exponent. -/
def afterDigits (negative : Bool) (digits : Nat) (exponent : Int) (s : Bytes) :
    Read JsonNumber :=
  match s with
  | 101 :: rest => exponentPart negative digits exponent rest
  | 69 :: rest => exponentPart negative digits exponent rest
  | _ => scaled negative digits exponent s

/-- Reads the decimal places behind the point. -/
def places (negative : Bool) (digits : Nat) (exponent : Int) (s : Bytes) : Read JsonNumber :=
  let (n, count, rest) := takeDigits greatestWord digits 0 s
  if startsWithDigit rest then afterDigits negative n (exponent - count) (skipDigits rest)
  else if count = 0 then
    match rest with
    | [] => faultNext .endInValue rest
    | _ => faultNext .invalidNumber rest
  else afterDigits negative n (exponent - count) rest

/-- Reads what follows the digits before the point; `more` counts digits that did
not fit. -/
def afterWhole (negative : Bool) (digits more : Nat) (s : Bytes) : Read JsonNumber :=
  match s with
  | 46 :: rest => places negative digits more rest
  | 101 :: rest => exponentPart negative digits more rest
  | 69 :: rest => exponentPart negative digits more rest
  | _ =>
    if more ≠ 0 then scaled negative digits more s
    else if !negative then .ok (.whole digits, s)
    else if digits ≠ 0 && digits ≤ Nat.pow 2 63 then .ok (.whole (-digits), s)
    else .ok (.double true (BinaryFormat.double.round digits 1), s)

/-- Reads a number without its sign. -/
def readNumber (negative : Bool) : Bytes → Read JsonNumber
  | [] => faultAt .endInValue []
  | b :: s => match byteDigit? b with
    | none => faultAt .invalidNumber s
    | some 0 =>
      if startsWithDigit s then faultNext .invalidNumber s
      else afterWhole negative 0 0 s
    | some d =>
      let (n, _, rest) := takeDigits greatestWord d 0 s
      afterWhole negative n (countDigits rest) (skipDigits rest)

end ServiceDispatch.Json
