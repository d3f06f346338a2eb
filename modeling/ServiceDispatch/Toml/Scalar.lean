import ServiceDispatch.Number.Floating

/-!
# Scalars of TOML

Texts, numbers, truth values and dates as TOML 1.1 writes them. Integers are read
whatever their size. Of a floating-point number it is only told whether a double can
hold it, and of a date only that it is one, since nothing is configured by either. Some
numbers are right in form but have no value; that is a mistake only where somebody asks
for the value, so they are kept as `unreadable`. Readers take the characters from the
value on, and give it with what follows.
-/

namespace ServiceDispatch.Toml

/-- A value without parts. -/
inductive Scalar where
  | text (s : String)
  | integer (n : Int)
  | bool (b : Bool)
  | floating
  /-- A number without a value: too large for a double, or with something else than its
  digits. -/
  | unreadable
  /-- A date, a time, or both. -/
  | moment
  deriving DecidableEq, Repr

/-- Blanks inside a line. -/
def isBlank (c : Char) : Bool := c == ' ' || c == '\t'

def skipBlanks (cs : List Char) : List Char := cs.dropWhile isBlank

/-- Characters that may stand in a comment or a literal text. -/
def isPrintable (c : Char) : Bool := c == '\t' || (0x20 ≤ c.toNat && c.toNat != 0x7f)

/-- The rest behind a line break. -/
def lineBreak? : List Char → Option (List Char)
  | '\n' :: cs => some cs
  | '\r' :: '\n' :: cs => some cs
  | _ => none

/-- A character by its number, unless it is a surrogate or too large. -/
def scalarValue? (n : Nat) : Option Char :=
  if h : n.isValidChar then some (Char.ofNatAux n h) else none

/-- The value of a digit of the given base. -/
def digitIn? (base : Nat) (c : Char) : Option Nat :=
  let n := c.toNat
  let d := if c.isDigit then n - 48
    else if 97 ≤ n && n ≤ 102 then n - 87
    else if 65 ≤ n && n ≤ 70 then n - 55
    else base
  if d < base then some d else none

/-- The number that digits of a base write. -/
def natIn? (base : Nat) (cs : List Char) : Option Nat :=
  cs.foldlM (fun n c => (digitIn? base c).map fun d => base * n + d) 0

/-- A character written by `count` digits of base sixteen. -/
def hexChar? (count : Nat) (cs : List Char) : Option (Char × List Char) :=
  if cs.length < count then none
  else ((natIn? 16 (cs.take count)).bind scalarValue?).map fun c => (c, cs.drop count)

/-- The character behind a backslash. -/
def escaped? : List Char → Option (Char × List Char)
  | 'b' :: cs => some (Char.ofNat 8, cs)
  | 't' :: cs => some ('\t', cs)
  | 'n' :: cs => some ('\n', cs)
  | 'f' :: cs => some (Char.ofNat 12, cs)
  | 'r' :: cs => some ('\r', cs)
  | 'e' :: cs => some (Char.ofNat 27, cs)
  | '"' :: cs => some ('"', cs)
  | '\\' :: cs => some ('\\', cs)
  | 'x' :: cs => hexChar? 2 cs
  | 'u' :: cs => hexChar? 4 cs
  | 'U' :: cs => hexChar? 8 cs
  | _ => none

/-- A text of one line behind its opening quote. -/
def lineText? (quote : Char) (escapes : Bool) :
    Nat → List Char → List Char → Option (String × List Char)
  | 0, _, _ => none
  | _ + 1, _, [] => none
  | steps + 1, passed, c :: cs =>
    if c == quote then some (String.ofList passed.reverse, cs)
    else if c == '\\' && escapes then
      match escaped? cs with
      | some (e, rest) => lineText? quote escapes steps (e :: passed) rest
      | none => none
    else if isPrintable c then lineText? quote escapes steps (c :: passed) cs
    else none

/-- Skips blanks and line breaks. -/
def skipLayout : List Char → List Char
  | [] => []
  | '\r' :: '\n' :: cs => skipLayout cs
  | c :: cs => if isBlank c || c == '\n' then skipLayout cs else c :: cs

/-- What follows a backslash at the end of a line: blanks, a line break, and all
blanks and line breaks after it are left out. -/
def joinLines? (cs : List Char) : Option (List Char) :=
  (lineBreak? (skipBlanks cs)).map skipLayout

/-- The quotes at the front of the characters, at most five of them. -/
def leadingQuotes (quote : Char) (cs : List Char) : Nat :=
  ((cs.take 5).takeWhile (· == quote)).length

/-- A text of several lines behind its opening quotes. Line breaks are kept as they are
written. -/
def blockText? (quote : Char) (escapes : Bool) :
    Nat → List Char → List Char → Option (String × List Char)
  | 0, _, _ => none
  | _ + 1, _, [] => none
  | steps + 1, passed, c :: cs =>
    let quotes := leadingQuotes quote (c :: cs)
    if 3 ≤ quotes then
      let kept := List.replicate (quotes - 3) quote
      some (String.ofList (passed.reverse ++ kept), (c :: cs).drop quotes)
    else if c == '\\' && escapes then
      match joinLines? cs with
      | some rest => blockText? quote escapes steps passed rest
      | none => match escaped? cs with
        | some (e, rest) => blockText? quote escapes steps (e :: passed) rest
        | none => none
    else match c, cs with
      | '\r', '\n' :: rest => blockText? quote escapes steps ('\n' :: '\r' :: passed) rest
      | _, _ =>
        if c == '\n' || isPrintable c then blockText? quote escapes steps (c :: passed) cs
        else none

/-- A text with any of the four quotings. -/
def text? (cs : List Char) : Option (String × List Char) :=
  let steps := cs.length + 1
  match cs with
  | '"' :: '"' :: '"' :: rest => blockText? '"' true steps [] ((lineBreak? rest).getD rest)
  | '\'' :: '\'' :: '\'' :: rest => blockText? '\'' false steps [] ((lineBreak? rest).getD rest)
  | '"' :: rest => lineText? '"' true steps [] rest
  | '\'' :: rest => lineText? '\'' false steps [] rest
  | _ => none

/-- Digits of a base, with single underscores between them left out. -/
def plainDigits? (base : Nat) : List Char → Option (List Char)
  | [] => none
  | [c] => if (digitIn? base c).isSome then some [c] else none
  | c :: '_' :: cs =>
    if (digitIn? base c).isSome then (plainDigits? base cs).map (c :: ·) else none
  | c :: cs => if (digitIn? base c).isSome then (plainDigits? base cs).map (c :: ·) else none

/-- A number in a base that its first two characters name; without digits it has no
value. -/
def based? (base : Nat) (cs : List Char) : Option Scalar :=
  if cs.isEmpty then some .unreadable
  else ((plainDigits? base cs).bind (natIn? base)).map fun n => .integer n

/-- A sign in front, as whether it is a minus, and the rest. -/
def sign (cs : List Char) : Bool × List Char :=
  match cs with
  | '-' :: rest => (true, rest)
  | '+' :: rest => (false, rest)
  | _ => (false, cs)

/-- A decimal number without needless zeros in front. -/
def decimal? (cs : List Char) : Option Nat :=
  ((plainDigits? 10 cs).filter fun ds => ds.length == 1 || ds.head? != some '0').bind (natIn? 10)

/-- Digits of base sixteen. -/
def isHexDigit (c : Char) : Bool := (digitIn? 16 c).isSome

/-- Whether underscores stand only between digits of base sixteen. -/
def isDivided : List Char → Bool
  | [] => true
  | c :: '_' :: cs => isHexDigit c && cs.head?.any isHexDigit && isDivided cs
  | _ :: cs => isDivided cs

/-- Whether characters have the form of a decimal number that is divided by underscores.
What stands behind the first of them is not looked at more closely, so such a number need
not have a value. -/
def isDividedDecimal (cs : List Char) : Bool :=
  let divided := cs.dropWhile Char.isDigit
  cs.head?.any (fun c => c.isDigit && c != '0') && divided.head? == some '_' && isDivided cs &&
    !divided.any fun c => c == '.' || c == 'e' || c == 'E'

/-- A whole number. -/
def integer? (cs : List Char) : Option Scalar :=
  match cs with
  | '0' :: 'x' :: ds => based? 16 ds
  | '0' :: 'o' :: ds => based? 8 ds
  | '0' :: 'b' :: ds => based? 2 ds
  | _ =>
    let (negative, ds) := sign cs
    match decimal? ds with
    | some n => some (.integer (if negative then -(n : Int) else n))
    | none => if isDividedDecimal ds then some .unreadable else none

/-- Whether characters behind a sign are a number with decimal places or an exponent. -/
def isDecimalFraction (cs : List Char) : Bool :=
  let isMark (c : Char) := c == 'e' || c == 'E'
  let mantissa := cs.takeWhile fun c => !isMark c
  let exponent := cs.dropWhile fun c => !isMark c
  let whole := mantissa.takeWhile (· != '.')
  let point := mantissa.dropWhile (· != '.')
  let placesOk := point.isEmpty || (plainDigits? 10 point.tail).isSome
  let exponentOk := exponent.isEmpty || (plainDigits? 10 (sign exponent.tail).2).isSome
  (decimal? whole).isSome && placesOk && exponentOk && !(point.isEmpty && exponent.isEmpty)

/-- Whether the double nearest to a number is infinite. -/
def isBeyond (cs : List Char) : Bool :=
  Floating.unsigned? .double (cs.filter (· != '_')) == some BinaryFormat.double.infinity

/-- A floating-point number. -/
def floating? (cs : List Char) : Option Scalar :=
  let body := (sign cs).2
  if body == "inf".toList || body == "nan".toList then some .floating
  else if isDecimalFraction body then some (if isBeyond body then .unreadable else .floating)
  else none

/-- The number of days of a month. -/
def daysIn (year month : Nat) : Nat :=
  if month == 2 then
    if year % 4 == 0 && (year % 100 != 0 || year % 400 == 0) then 29 else 28
  else if [4, 6, 9, 11].contains month then 30
  else 31

/-- The number of a fixed count of decimal digits. -/
def fixed? (count : Nat) (cs : List Char) : Option Nat :=
  if cs.length == count && cs.all Char.isDigit then natIn? 10 cs else none

/-- Whether characters are a date. -/
def isDate (cs : List Char) : Bool :=
  match fixed? 4 (cs.take 4), cs[4]?, fixed? 2 ((cs.drop 5).take 2), cs[7]?,
    fixed? 2 (cs.drop 8) with
  | some y, some '-', some m, some '-', some d => 1 ≤ m && m ≤ 12 && 1 ≤ d && d ≤ daysIn y m
  | _, _, _, _, _ => false

/-- Whether characters are hours and minutes. -/
def isHourMinute (cs : List Char) : Bool :=
  match fixed? 2 (cs.take 2), cs[2]?, fixed? 2 (cs.drop 3) with
  | some h, some ':', some m => h < 24 && m < 60
  | _, _, _ => false

/-- Whether characters are a time of day; seconds and their fraction may be left out. -/
def isTime (cs : List Char) : Bool :=
  isHourMinute (cs.take 5) && match cs.drop 5 with
    | [] => true
    | ':' :: rest =>
      let whole := rest.take 2
      let fraction := rest.drop 2
      let secondOk := match fixed? 2 whole with
        | some s => s ≤ 60
        | none => false
      secondOk && match fraction with
        | [] => true
        | '.' :: ds => !ds.isEmpty && ds.all Char.isDigit
        | _ => false
    | _ => false

/-- Whether characters are a time of day with an optional offset. -/
def isOffsetTime (cs : List Char) : Bool :=
  let time := cs.takeWhile fun c => c.isDigit || c == ':' || c == '.'
  isTime time && match cs.drop time.length with
    | [] => true
    | ['Z'] => true
    | ['z'] => true
    | '+' :: offset => isHourMinute offset
    | '-' :: offset => isHourMinute offset
    | _ => false

/-- Whether characters are a date, a time, or both. -/
def isDateTime (cs : List Char) : Bool :=
  isDate cs || isTime cs ||
    (isDate (cs.take 10) && match cs[10]? with
      | some c => (c == 'T' || c == 't' || c == ' ') && isOffsetTime (cs.drop 11)
      | none => false)

/-- Characters that end a value without quotes. -/
def endsToken (c : Char) : Bool :=
  isBlank c || ['\n', '\r', ',', '=', '#', '[', ']', '\x7b', '\x7d'].contains c

/-- The characters of a value without quotes, and the rest. A date takes a time along
that is set off by a space. -/
def token (cs : List Char) : List Char × List Char :=
  let first := cs.takeWhile fun c => !endsToken c
  let rest := cs.drop first.length
  match rest with
  | ' ' :: more =>
    if isDate first && (more.head?.map Char.isDigit).getD false then
      let second := more.takeWhile fun c => !endsToken c
      (first ++ ' ' :: second, more.drop second.length)
    else (first, rest)
  | _ => (first, rest)

/-- A value without quotes. -/
def bare? (cs : List Char) : Option Scalar :=
  if cs == "true".toList then some (.bool true)
  else if cs == "false".toList then some (.bool false)
  else if isDateTime cs then some .moment
  else (integer? cs).or (floating? cs)

/-- A scalar and what follows it. -/
def scalar? (cs : List Char) : Option (Scalar × List Char) :=
  match cs with
  | [] => none
  | c :: _ =>
    if c == '"' || c == '\'' then (text? cs).map fun p => (.text p.1, p.2)
    else
      let (t, rest) := token cs
      (bare? t).map fun s => (s, rest)

end ServiceDispatch.Toml
