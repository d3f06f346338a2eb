/-!
# UTF-8

A text is written as bytes by `encode`. `decode` reads bytes back and says where
and how they are ill formed; `decodeLossy` puts U+FFFD in place of each maximal
ill-formed part. Both rest on `scan`, which reads one scalar value and knows how
many bytes of an ill-formed sequence belong together.
-/

namespace ServiceDispatch

/-- A body, a header value or a stored file. -/
abbrev Bytes := List UInt8

namespace Utf8

/-- Why bytes are not UTF-8. -/
inductive Error where
  /-- The `count` bytes from `index` on cannot occur in that place. -/
  | invalid (count index : Nat)
  /-- The bytes end inside the sequence that begins at `index`. -/
  | incomplete (index : Nat)
  deriving DecidableEq, Repr

def Error.message : Error → String
  | .invalid count index => s!"invalid utf-8 sequence of {count} bytes from index {index}"
  | .incomplete index => s!"incomplete utf-8 byte sequence from index {index}"

/-- The index of the first byte that is out of place. -/
def Error.index : Error → Nat
  | .invalid _ index => index
  | .incomplete index => index

/-- The bytes of a text. -/
def encode (s : String) : Bytes := s.toList.flatMap String.utf8EncodeChar

/-- A byte after the first of a sequence. -/
def isContinuation (b : UInt8) : Bool := 0x80 ≤ b && b ≤ 0xbf

/-- What the bytes after a first byte amount to. -/
inductive Scan where
  /-- A scalar value that uses `extra` of the following bytes. -/
  | scalar (c : Char) (extra : Nat)
  /-- An ill-formed sequence that uses `extra` of the following bytes. -/
  | malformed (extra : Nat)
  /-- A sequence that wants more bytes than there are. -/
  | truncated

/-- The scalar value made of the payload bits of a first byte and its followers. -/
def assemble (lead : Nat) (followers : Bytes) : Char :=
  Char.ofNat (followers.foldl (fun n b => n * 64 + (b.toNat - 0x80)) lead)

/-- How many bytes follow a first byte, and the bounds of the first of them;
`none` for bytes that begin no sequence of two or more. -/
def followersOf (b : UInt8) : Option (Nat × UInt8 × UInt8) :=
  if 0xc2 ≤ b && b ≤ 0xdf then some (1, 0x80, 0xbf)
  else if b == 0xe0 then some (2, 0xa0, 0xbf)
  else if b == 0xed then some (2, 0x80, 0x9f)
  else if 0xe1 ≤ b && b ≤ 0xef then some (2, 0x80, 0xbf)
  else if b == 0xf0 then some (3, 0x90, 0xbf)
  else if 0xf1 ≤ b && b ≤ 0xf3 then some (3, 0x80, 0xbf)
  else if b == 0xf4 then some (3, 0x80, 0x8f)
  else none

/-- The payload bits of the first byte of a sequence with `count` followers. -/
def leadBits (count : Nat) (b : UInt8) : Nat :=
  b.toNat % (if count = 1 then 32 else if count = 2 then 16 else 8)

/-- Reads one scalar value that begins with `b`. -/
def scan (b : UInt8) (rest : Bytes) : Scan :=
  if b < 0x80 then .scalar (Char.ofNat b.toNat) 0
  else match followersOf b with
    | none => .malformed 0
    | some (count, low, high) => match rest with
      | [] => .truncated
      | second :: more =>
        if second < low || high < second then .malformed 0
        else
          let good := (more.take (count - 1)).takeWhile isContinuation
          if good.length = count - 1 then
            .scalar (assemble (leadBits count b) (second :: good)) count
          else if more.length = good.length then .truncated
          else .malformed (good.length + 1)

/-- Reads the rest of a text, with the index reached and the characters so far
in reverse. -/
def decodeFrom (index : Nat) (passed : List Char) : Bytes → Except Error (List Char)
  | [] => .ok passed.reverse
  | b :: rest =>
    match scan b rest with
    | .scalar c extra => decodeFrom (index + 1 + extra) (c :: passed) (rest.drop extra)
    | .malformed extra => .error (.invalid (extra + 1) index)
    | .truncated => .error (.incomplete index)
termination_by s => s.length

/-- The text that the bytes write. -/
def decode (s : Bytes) : Except Error String := (decodeFrom 0 [] s).map String.ofList

/-- The text that the bytes write, or `none` when they are no UTF-8. -/
def decode? (s : Bytes) : Option String := (decode s).toOption

def replacement : Char := Char.ofNat 0xfffd

/-- As `decodeFrom`, with U+FFFD for whatever is ill formed. -/
def decodeLossyFrom (passed : List Char) : Bytes → List Char
  | [] => passed.reverse
  | b :: rest =>
    match scan b rest with
    | .scalar c extra => decodeLossyFrom (c :: passed) (rest.drop extra)
    | .malformed extra => decodeLossyFrom (replacement :: passed) (rest.drop extra)
    | .truncated => (replacement :: passed).reverse
termination_by s => s.length

/-- The text that the bytes write, with U+FFFD for each maximal ill-formed part. -/
def decodeLossy (s : Bytes) : String := String.ofList (decodeLossyFrom [] s)

end Utf8

end ServiceDispatch
