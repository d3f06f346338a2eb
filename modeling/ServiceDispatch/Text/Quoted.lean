import ServiceDispatch.Text.Hex
import ServiceDispatch.Text.Printable

/-!
# Quoted text

`quoted s` writes a text between double quotes, with escapes for the quote, the
backslash, and every character that would not show as itself. The same form is
used for texts inside lists and records by `quotedList` and `optional`.
-/

namespace ServiceDispatch.Text

/-- How one character stands between the quotes. -/
def escape (c : Char) : List Char :=
  if c == '"' then ['\\', '"']
  else if c == '\\' then ['\\', '\\']
  else if c == '\n' then ['\\', 'n']
  else if c == '\r' then ['\\', 'r']
  else if c == '\t' then ['\\', 't']
  else if c.toNat == 0 then ['\\', '0']
  else if c.toNat < 0x20 || c.toNat == 0x7f || (0x80 ≤ c.toNat && isSpelledOut c) then
    '\\' :: 'u' :: '\x7b' :: Hex.digits 1 c.toNat ++ ['\x7d']
  else [c]

/-- The text between double quotes, with escapes. -/
def quoted (s : String) : String :=
  String.ofList ('"' :: s.toList.flatMap escape ++ ['"'])

/-- Texts between brackets, separated by a comma and a space. -/
def bracketed (items : List String) : String :=
  "[" ++ ", ".intercalate items ++ "]"

/-- Texts between braces, separated by a comma and a space. -/
def braced (items : List String) : String :=
  "\x7b" ++ ", ".intercalate items ++ "\x7d"

/-- A list of quoted texts. -/
def quotedList (items : List String) : String := bracketed (items.map quoted)

/-- How a value that may be missing is shown. -/
def optional {α : Type} (render : α → String) : Option α → String
  | none => "None"
  | some a => s!"Some({render a})"

/-- A record: its name and its fields with their values. -/
def record (name : String) (fields : List (String × String)) : String :=
  let body := ", ".intercalate (fields.map fun f => f.1 ++ ": " ++ f.2)
  name ++ " \x7b " ++ body ++ " \x7d"

end ServiceDispatch.Text
