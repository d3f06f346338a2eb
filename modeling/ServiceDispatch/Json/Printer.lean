import ServiceDispatch.Json.Basic
import ServiceDispatch.Number.Shortest
import ServiceDispatch.Text.Hex

/-!
# Compact text of a value tree

`Json.render` writes a tree without blanks. Texts escape the quote, the backslash
and the control characters below the space, and nothing else. A double is written
with the fewest digits that read back, in positional notation from `10^-5` to
below `10^16` and with an exponent otherwise.
-/

namespace ServiceDispatch

/-- Exponents of the leading digit for which a double is written positionally. -/
def JsonNumber.isPlain (leading : Int) : Bool := -5 ≤ leading && leading < 16

def JsonNumber.render : JsonNumber → String
  | .whole n => toString n
  | .double negative pattern => Shortest.text .double JsonNumber.isPlain negative pattern

namespace Json

/-- How one character stands between the quotes. -/
def escape (c : Char) : List Char :=
  if c == '"' then ['\\', '"']
  else if c == '\\' then ['\\', '\\']
  else if c.toNat == 8 then ['\\', 'b']
  else if c.toNat == 12 then ['\\', 'f']
  else if c == '\n' then ['\\', 'n']
  else if c == '\r' then ['\\', 'r']
  else if c == '\t' then ['\\', 't']
  else if c.toNat < 0x20 then '\\' :: 'u' :: Hex.digits 4 c.toNat
  else [c]

/-- A text between quotes. -/
def renderText (s : String) : String := String.ofList ('"' :: s.toList.flatMap escape ++ ['"'])

mutual

/-- The compact text of a tree. -/
def render : Json → String
  | .null => "null"
  | .bool true => "true"
  | .bool false => "false"
  | .number n => n.render
  | .text s => renderText s
  | .list items => "[" ++ ",".intercalate (renderItems items) ++ "]"
  | .object members => "\x7b" ++ ",".intercalate (renderMembers members) ++ "\x7d"

def renderItems : List Json → List String
  | [] => []
  | j :: js => render j :: renderItems js

def renderMembers : List (String × Json) → List String
  | [] => []
  | (k, j) :: ms => (renderText k ++ ":" ++ render j) :: renderMembers ms

end

end Json

end ServiceDispatch
