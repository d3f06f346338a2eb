import ServiceDispatch.Text.Blank

/-!
# File names from clients

Of a name that a client supplies only the last path component is used, without
control characters and surrounding blanks. What is left may be nothing usable.
-/

namespace ServiceDispatch.FileName

/-- Characters that separate the components of a path, on any system. -/
def isSeparator (c : Char) : Bool := c == '/' || c == '\\'

/-- What stands behind the last separator. -/
def lastComponent (cs : List Char) : List Char :=
  (cs.reverse.takeWhile fun c => !isSeparator c).reverse

/-- The usable part of a name, as characters. -/
def clean (cs : List Char) : List Char :=
  Text.trimChars ((lastComponent cs).filter fun c => !Text.isControl c)

/-- Names that no file can have. -/
def isReserved (cs : List Char) : Bool := cs.isEmpty || cs == ['.'] || cs == ['.', '.']

/-- The file name that a client's text comes down to. -/
def sanitize? (name : String) : Option String :=
  let cs := clean name.toList
  if isReserved cs then none else some (String.ofList cs)

end ServiceDispatch.FileName
