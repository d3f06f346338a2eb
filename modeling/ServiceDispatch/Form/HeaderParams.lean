import ServiceDispatch.Text.Blank
import ServiceDispatch.Text.Cut

/-!
# Parameters of a header value

A header value may carry parameters `key=value` behind semicolons. A value between
quotes may hold semicolons, and a backslash inside quotes takes the next character
as it is; quotes and such backslashes are not part of the value. `segments` undoes
the quoting while it splits, so an equals sign that was quoted still separates.
-/

namespace ServiceDispatch.HeaderParams

/-- Where in the quoting a character stands. -/
inductive Mode where
  | plain
  | quoted
  /-- Behind a backslash inside quotes. -/
  | escaped
  deriving DecidableEq, Repr

/-- The parts between the unquoted semicolons, with the characters of the current
part so far in reverse. -/
def segmentsFrom (passed : List Char) : Mode → List Char → List (List Char)
  | _, [] => [passed.reverse]
  | .escaped, c :: cs => segmentsFrom (c :: passed) .quoted cs
  | .quoted, c :: cs =>
    if c = '\\' then segmentsFrom passed .escaped cs
    else if c = '"' then segmentsFrom passed .plain cs
    else segmentsFrom (c :: passed) .quoted cs
  | .plain, c :: cs =>
    if c = '"' then segmentsFrom passed .quoted cs
    else if c = ';' then passed.reverse :: segmentsFrom [] .plain cs
    else segmentsFrom (c :: passed) .plain cs

/-- The parts of a header value, without their quoting. -/
def segments (cs : List Char) : List (List Char) := segmentsFrom [] .plain cs

/-- The key and the value of a part, each without surrounding blanks. -/
def parameter? (segment : List Char) : Option (String × String) :=
  (Text.cut? ['='] segment).map fun p =>
    (String.ofList (Text.trimChars p.1), String.ofList (Text.trimChars p.2))

/-- The parameters behind the first semicolon, in order. -/
def read (value : String) : List (String × String) :=
  (segments value.toList).tail.filterMap parameter?

end ServiceDispatch.HeaderParams
