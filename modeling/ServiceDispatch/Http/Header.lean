import ServiceDispatch.Data.Table
import ServiceDispatch.Text.Ascii
import ServiceDispatch.Text.Utf8

/-!
# Header fields

`Headers` maps each header name, a token in small letters, to its values in the
order in which they arrived. Reading a header gives its first value; `append`
adds one and `insert` puts one in place of all of them.
-/

namespace ServiceDispatch

/-- Bytes of a token: letters, digits and fifteen marks. -/
def isTokenByte (b : UInt8) : Bool :=
  (48 ≤ b && b ≤ 57) || (65 ≤ b && b ≤ 90) || (97 ≤ b && b ≤ 122) ||
    b == 33 || (35 ≤ b && b ≤ 39) || b == 42 || b == 43 || b == 45 || b == 46 ||
    b == 94 || b == 95 || b == 96 || b == 124 || b == 126

/-- A token: not empty, and made of token bytes. -/
def isToken (s : String) : Bool :=
  let bytes := Utf8.encode s
  !bytes.isEmpty && bytes.all isTokenByte

namespace Header

/-- The number of bytes that a header name may have. -/
def nameLimit : Nat := 65535

/-- The stored form of a header name, unless the text is none. -/
def name? (s : String) : Option String :=
  if isToken s && s.utf8ByteSize ≤ nameLimit then some (Text.lower s) else none

/-- Bytes of a header value: no control character but the tab. -/
def isValueByte (b : UInt8) : Bool := (32 ≤ b && b != 127) || b == 9

def isValue (v : Bytes) : Bool := v.all isValueByte

/-- Bytes of a header value that is plain text. -/
def isTextByte (b : UInt8) : Bool := (32 ≤ b && b < 127) || b == 9

/-- A header value as text, if it holds nothing but printable ASCII and tabs. -/
def text? (v : Bytes) : Option String :=
  if v.all isTextByte then some (String.ofList (v.map fun b => Char.ofNat b.toNat)) else none

end Header

/-- Values by header name, those of one name in order of arrival. -/
abbrev Headers := Table (List Bytes)

namespace Headers

/-- Every value of a header, in order. -/
def values (name : String) (h : Headers) : List Bytes :=
  (Table.get? (Text.lower name) h).getD []

/-- The first value of a header. -/
def first? (name : String) (h : Headers) : Option Bytes := (values name h).head?

/-- The first value of a header, if it is text. -/
def text? (name : String) (h : Headers) : Option String := (first? name h).bind Header.text?

/-- Adds a value after those that the header has. -/
def append (name : String) (value : Bytes) (h : Headers) : Headers :=
  Table.alter (Text.lower name) (fun vs => vs.getD [] ++ [value]) h

/-- Makes a value the only one of its header. -/
def insert (name : String) (value : Bytes) (h : Headers) : Headers :=
  Table.insert (Text.lower name) [value] h

/-- Names and values, by name and then in order of arrival. -/
def toList (h : Headers) : List (String × Bytes) :=
  h.flatMap fun e => e.2.map fun v => (e.1, v)

/-- The headers with the given values, each appended. -/
def ofList (fields : List (String × Bytes)) : Headers :=
  fields.foldl (fun h f => append f.1 f.2 h) []

end Headers

end ServiceDispatch
