import ServiceDispatch.Text.Blank
import ServiceDispatch.Text.Cut

/-!
# Cookies

A cookie header is a list of pairs between semicolons. What has no equals sign is no
pair; names and values are taken without the blanks around them, and a value may hold
further equals signs.
-/

namespace ServiceDispatch.Cookie

/-- A pair, if the characters hold an equals sign. -/
def pair? (cs : List Char) : Option (String × String) :=
  (Text.cut? ['='] (Text.trimChars cs)).map fun p =>
    (String.ofList (Text.trimChars p.1), String.ofList (Text.trimChars p.2))

/-- The pairs of a header in order. -/
def pairs (header : String) : List (String × String) :=
  (Text.pieces [';'] header.toList).filterMap pair?

/-- The value of the first pair with a name. -/
def find? (name : String) (header : String) : Option String :=
  ((pairs header).find? fun p => p.1 == name).map Prod.snd

end ServiceDispatch.Cookie
