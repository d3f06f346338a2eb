/-!
# Decimal integers of a fixed width

`IntegerFormat.read` reads an optional sign and decimal digits into an integer
that fits the width. Digits are checked from the left, so of a bad digit and an
overflow the one that comes first is reported.
-/

namespace ServiceDispatch

/-- Why a text is no integer of the width asked for. -/
inductive IntegerError where
  | empty
  | invalidDigit
  | tooLarge
  | tooSmall
  deriving DecidableEq, Repr

def IntegerError.message : IntegerError → String
  | .empty => "cannot parse integer from empty string"
  | .invalidDigit => "invalid digit found in string"
  | .tooLarge => "number too large to fit in target type"
  | .tooSmall => "number too small to fit in target type"

/-- A two's complement or unsigned format of the given number of bits. -/
structure IntegerFormat where
  signed : Bool
  bits : Nat
  deriving DecidableEq, Repr

namespace IntegerFormat

/-- The greatest number of the format. -/
def greatest (f : IntegerFormat) : Nat :=
  if f.signed then Nat.pow 2 (f.bits - 1) - 1 else Nat.pow 2 f.bits - 1

/-- The magnitude of the least number of the format. -/
def leastMagnitude (f : IntegerFormat) : Nat := if f.signed then Nat.pow 2 (f.bits - 1) else 0

/-- The integers of the format. -/
def Fits (f : IntegerFormat) (n : Int) : Prop :=
  -(f.leastMagnitude : Int) ≤ n ∧ n ≤ f.greatest

instance (f : IntegerFormat) (n : Int) : Decidable (f.Fits n) := instDecidableAnd

/-- The value of an ASCII digit. -/
def digit? (c : Char) : Option Nat := if c.isDigit then some (c.toNat - 48) else none

/-- Extends the magnitude read so far by digits, up to `bound`; `beyond` is the
complaint about a magnitude that exceeds it. -/
def readDigits (bound : Nat) (beyond : IntegerError) (n : Nat) :
    List Char → Except IntegerError Nat
  | [] => .ok n
  | c :: cs => match digit? c with
    | none => .error .invalidDigit
    | some d =>
      if bound < 10 * n + d then .error beyond
      else readDigits bound beyond (10 * n + d) cs

/-- Reads a whole text as an integer of the format. -/
def readChars (f : IntegerFormat) : List Char → Except IntegerError Int
  | [] => .error .empty
  | ['+'] => .error .invalidDigit
  | ['-'] => .error .invalidDigit
  | '+' :: cs => (readDigits f.greatest .tooLarge 0 cs).map Int.ofNat
  | '-' :: cs =>
    if f.signed then (readDigits f.leastMagnitude .tooSmall 0 cs).map fun n => -(n : Int)
    else .error .invalidDigit
  | cs => (readDigits f.greatest .tooLarge 0 cs).map Int.ofNat

def read (f : IntegerFormat) (s : String) : Except IntegerError Int := f.readChars s.toList

def int64 : IntegerFormat := ⟨true, 64⟩

def word8 : IntegerFormat := ⟨false, 8⟩

def word64 : IntegerFormat := ⟨false, 64⟩

end IntegerFormat

end ServiceDispatch
