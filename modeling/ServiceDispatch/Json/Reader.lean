import ServiceDispatch.Json.Number
import ServiceDispatch.Text.Hex

/-!
# Reading value trees

`Json.read` reads a whole text as one value. A mistake is reported with the line
and the column up to which the text had been read. Nesting is limited, so that a
text cannot ask for unbounded depth. `Json.readAsWritten` is for a reader who asks for
a few members only: it keeps objects as they are written, and lets pass what has no
value as long as its form is right.

The readers `value`, `items` and `members` work on a supply of steps that
`Json.read` takes from the length of the text; each step reads a byte or opens a
value, so the supply lasts.
-/

namespace ServiceDispatch.Json

/-- Blanks between the tokens of a text. -/
def isSpace (b : UInt8) : Bool := b == 32 || b == 10 || b == 9 || b == 13

def skipSpace (s : Bytes) : Bytes := s.dropWhile isSpace

/-- Reads the rest of a literal name. -/
def literal (value : Json) : Bytes → Bytes → Read Json
  | [], s => .ok (value, s)
  | _ :: _, [] => faultAt .endInValue []
  | e :: expected, b :: s => if b = e then literal value expected s else faultAt .expectedName s

/-- Reads the four digits of an escape. -/
def hexEscape : Bytes → Read Nat
  | a :: b :: c :: d :: s =>
    match Hex.value? a, Hex.value? b, Hex.value? c, Hex.value? d with
    | some w, some x, some y, some z => .ok (((w * 16 + x) * 16 + y) * 16 + z, s)
    | _, _, _, _ => faultAt .invalidEscape s
  | _ => faultAt .endInText []

/-- Reads the second half of a pair of surrogates. -/
def trailingSurrogate (lead : Nat) : Bytes → Read Char
  | [] => faultAt .endInText []
  | 92 :: [] => faultAt .endInText []
  | 92 :: 117 :: s => match hexEscape s with
    | .error e => .error e
    | .ok (n, rest) =>
      if 0xdc00 ≤ n && n ≤ 0xdfff then
        .ok (Char.ofNat ((lead - 0xd800) * 0x400 + (n - 0xdc00) + 0x10000), rest)
      else faultAt .loneSurrogate rest
  | 92 :: _ :: s => faultAt .endOfEscape s
  | _ :: s => faultAt .endOfEscape s

/-- Reads a character that is written by its number. -/
def numberedEscape (s : Bytes) : Read Char :=
  match hexEscape s with
  | .error e => .error e
  | .ok (n, rest) =>
    if 0xdc00 ≤ n && n ≤ 0xdfff then faultAt .loneSurrogate rest
    else if 0xd800 ≤ n && n ≤ 0xdbff then trailingSurrogate n rest
    else .ok (Char.ofNat n, rest)

/-- Reads the character behind a backslash. -/
def escaped : Bytes → Read Char
  | [] => faultAt .endInText []
  | b :: s =>
    if b = 117 then numberedEscape s
    else if b = 34 then .ok ('"', s)
    else if b = 92 then .ok ('\\', s)
    else if b = 47 then .ok ('/', s)
    else if b = 98 then .ok (Char.ofNat 8, s)
    else if b = 102 then .ok (Char.ofNat 12, s)
    else if b = 110 then .ok ('\n', s)
    else if b = 114 then .ok ('\r', s)
    else if b = 116 then .ok ('\t', s)
    else faultAt .invalidEscape s

/-- Reads a text behind its opening quote, with the bytes so far in reverse. -/
def textBytes : Nat → Bytes → Bytes → Read Bytes
  | 0, _, s => faultAt .endInText s
  | _ + 1, _, [] => faultAt .endInText []
  | steps + 1, passed, b :: s =>
    if b = 34 then .ok (passed.reverse, s)
    else if b = 92 then
      match escaped s with
      | .error e => .error e
      | .ok (c, rest) => textBytes steps ((String.utf8EncodeChar c).reverse ++ passed) rest
    else if b < 32 then faultAt .controlCharacter s
    else textBytes steps (b :: passed) s

/-- Reads a text behind its opening quote. Bytes that are no UTF-8 are reported as far
before the end of the text as the first of them stands before the end of its content, in
which an escape counts as the bytes that it writes. -/
def textPart (s : Bytes) : Read String :=
  match textBytes (s.length + 1) [] s with
  | .error e => .error e
  | .ok (bytes, rest) => match Utf8.decode bytes with
    | .ok t => .ok (t, rest)
    | .error e =>
      let left := rest.length + (bytes.length - e.index)
      faultAt .invalidUnicode (s.drop (s.length - left))

/-- The deepest nesting of lists and objects, plus one. -/
def depthLimit : Nat := 128

/-- How the parts of a text become a tree. -/
structure Rules where
  /-- Makes an object of its members as they are written. -/
  object : List (String × Json) → Json := ofMembers
  /-- Whether numbers and texts that have no value are passed over. -/
  lenient : Bool := false

/-- What stands for a part that has no value and was passed over. -/
def passedOver : Json := .number (.double false 0)

/-- Makes an object of the members read, the last one first. One whose name was passed
over leaves the object without a value. -/
def Rules.objectOf (rules : Rules) (passed : List (Option String × Json)) : Json :=
  match passed.reverse.mapM fun (k, j) => k.map (·, j) with
  | some members => rules.object members
  | none => passedOver

/-- What follows a text, of which only the form counts. -/
def skipText : Bytes → Option Bytes
  | [] => none
  | 92 :: 117 :: s =>
    if (s.take 4).length = 4 && (s.take 4).all fun b => (Hex.value? b).isSome then
      skipText (s.drop 4)
    else none
  | 92 :: b :: s => if (escaped [b]).isOk then skipText s else none
  | b :: s => if b = 34 then some s else if b < 32 then none else skipText s
termination_by s => s.length

/-- Reads a number behind its sign. -/
def numberValue (rules : Rules) (negative : Bool) (s : Bytes) : Read Json :=
  match readNumber negative s with
  | .ok (n, rest) => .ok (.number n, rest)
  | .error f =>
    if rules.lenient && f.cause == .numberOutOfRange then .ok (passedOver, skipDigits f.rest)
    else .error f

/-- Reads a text behind its opening quote, `none` if it was passed over. -/
def textUnder (rules : Rules) (s : Bytes) : Read (Option String) :=
  match textPart s with
  | .ok (t, rest) => .ok (some t, rest)
  | .error f => match (skipText s).filter fun _ => rules.lenient with
    | some rest => .ok (none, rest)
    | none => .error f

/-- Reads a text as a value, behind its opening quote. -/
def textValue (rules : Rules) (s : Bytes) : Read Json :=
  (textUnder rules s).map fun (t, rest) => (t.elim passedOver .text, rest)

mutual

/-- Reads a value. -/
def value (rules : Rules) (depth : Nat) : Nat → Bytes → Read Json
  | 0, s => faultAt .endInValue s
  | steps + 1, s =>
    match skipSpace s with
    | [] => faultNext .endInValue []
    | b :: rest =>
      if b = 110 then literal .null "ull".toUTF8.toList rest
      else if b = 116 then literal (.bool true) "rue".toUTF8.toList rest
      else if b = 102 then literal (.bool false) "alse".toUTF8.toList rest
      else if b = 45 then numberValue rules true rest
      else if (byteDigit? b).isSome then numberValue rules false (b :: rest)
      else if b = 34 then textValue rules rest
      else if b = 91 then
        if depth ≤ 1 then faultAt .tooDeep rest else items rules (depth - 1) steps [] rest
      else if b = 123 then
        if depth ≤ 1 then faultAt .tooDeep rest else members rules (depth - 1) steps [] rest
      else faultAt .expectedValue rest

/-- Reads the items of a list, with those so far in reverse. -/
def items (rules : Rules) (depth : Nat) : Nat → List Json → Bytes → Read Json
  | 0, _, s => faultAt .endInList s
  | steps + 1, passed, s =>
    match skipSpace s with
    | [] => faultNext .endInList []
    | b :: rest =>
      if b = 93 then .ok (.list passed.reverse, rest)
      else if passed.isEmpty then item rules depth steps passed (b :: rest)
      else if b = 44 then
        match skipSpace rest with
        | [] => faultNext .endInValue []
        | 93 :: after => faultAt .trailingComma after
        | more => item rules depth steps passed more
      else faultAt .expectedListEnd rest

/-- Reads one item of a list and those after it. -/
def item (rules : Rules) (depth : Nat) : Nat → List Json → Bytes → Read Json
  | 0, _, s => faultAt .endInList s
  | steps + 1, passed, s =>
    match value rules depth steps s with
    | .error e => .error e
    | .ok (j, rest) => items rules depth steps (j :: passed) rest

/-- Reads the members of an object, with those so far in reverse. -/
def members (rules : Rules) (depth : Nat) :
    Nat → List (Option String × Json) → Bytes → Read Json
  | 0, _, s => faultAt .endInObject s
  | steps + 1, passed, s =>
    match skipSpace s with
    | [] => faultNext .endInObject []
    | b :: rest =>
      if b = 125 then .ok (rules.objectOf passed, rest)
      else if passed.isEmpty then member rules depth steps passed b rest
      else if b = 44 then
        match skipSpace rest with
        | [] => faultNext .endInValue []
        | 125 :: after => faultAt .trailingComma after
        | c :: after => member rules depth steps passed c after
      else faultAt .expectedObjectEnd rest

/-- Reads one member of an object, which begins with `b`, and those after it. -/
def member (rules : Rules) (depth : Nat) :
    Nat → List (Option String × Json) → UInt8 → Bytes → Read Json
  | 0, _, _, s => faultAt .endInObject s
  | steps + 1, passed, b, s =>
    if b ≠ 34 then faultAt .keyNotText s
    else match textUnder rules s with
      | .error e => .error e
      | .ok (k, afterKey) => match skipSpace afterKey with
        | [] => faultNext .endInObject []
        | 58 :: afterColon => match value rules depth steps afterColon with
          | .error e => .error e
          | .ok (j, rest) => members rules depth steps ((k, j) :: passed) rest
        | _ :: rest => faultAt .expectedColon rest

end

/-- A mistake and where it was found. -/
structure Mistake where
  cause : Cause
  line : Nat
  column : Nat
  deriving DecidableEq, Repr

def Mistake.message (m : Mistake) : String :=
  s!"{m.cause.message} at line {m.line} column {m.column}"

/-- The place reached after the given bytes. -/
def Mistake.after (cause : Cause) (passed : Bytes) : Mistake where
  cause
  line := passed.count 10 + 1
  column := (passed.reverse.takeWhile (· != 10)).length

/-- Reads a whole text as one value that is nested less deep than `depth`. -/
def readWith (rules : Rules) (depth : Nat) (s : Bytes) : Except Mistake Json :=
  let mistake (f : Fault) := Mistake.after f.cause (s.take (s.length - f.rest.length))
  match value rules depth (4 * s.length + 4) s with
  | .error f => .error (mistake f)
  | .ok (j, rest) => match skipSpace rest with
    | [] => .ok j
    | _ :: more => .error (mistake ⟨.trailingCharacters, more⟩)

/-- Reads a whole text as one value. -/
def read (s : Bytes) : Except Mistake Json := readWith {} depthLimit s

/-- Reads a whole text as one value, with the members of objects as they are
written, in order and with repetitions. Numbers and texts that have no value are passed
over and nesting has no limit, so a part that nobody asks for is no mistake. -/
def readAsWritten (s : Bytes) : Except Mistake Json :=
  readWith { object := .object, lenient := true } (s.length + 1) s

end ServiceDispatch.Json
