import ServiceDispatch.Text.Ascii
import ServiceDispatch.Text.Utf8

/-!
# Request targets

A target as a transport parses it: a path with an optional query, the asterisk, an
authority, or an absolute form with scheme and authority. `Target.read` checks the
text and drops its fragment; `Target.render` writes the target back, with a slash
for the path of an absolute form that has none.
-/

namespace ServiceDispatch

/-- Why a text is no request target. -/
inductive TargetError where
  | empty
  | tooLong
  | invalidCharacter
  | invalidAuthority
  | invalidFormat
  | schemeTooLong
  deriving DecidableEq, Repr

def TargetError.message : TargetError → String
  | .empty => "empty string"
  | .tooLong => "uri too long"
  | .invalidCharacter => "invalid uri character"
  | .invalidAuthority => "invalid authority"
  | .invalidFormat => "invalid format"
  | .schemeTooLong => "scheme too long"

/-- A request target without its fragment. -/
structure Target where
  scheme : Option String
  authority : String
  path : String
  query : Option String
  deriving DecidableEq, Repr

namespace Target

/-- Characters of a path; those beyond ASCII are let through. -/
def isPathChar (c : Char) : Bool :=
  let n := c.toNat
  n == 0x21 || (0x24 ≤ n && n ≤ 0x3b) || n == 0x3d || (0x40 ≤ n && n ≤ 0x5f) ||
    (0x61 ≤ n && n ≤ 0x7e) || 0x80 ≤ n || n == 0x22

/-- Characters of a query; those beyond ASCII are let through. -/
def isQueryChar (c : Char) : Bool :=
  let n := c.toNat
  n == 0x21 || (0x24 ≤ n && n ≤ 0x3b) || n == 0x3d || (0x3f ≤ n && n ≤ 0x7e) || 0x80 ≤ n

/-- Characters of an authority, the percent sign apart. -/
def isAuthorityChar (c : Char) : Bool :=
  c.isAlphanum || "!$&'()*+,-.:;=@[]_~".toList.contains c

/-- Reads a path, and a query behind a question mark; a fragment is dropped. -/
def pathAndQuery (cs : List Char) : Except TargetError (String × Option String) :=
  let path := cs.takeWhile fun c => c != '?' && c != '#'
  let rest := cs.dropWhile fun c => c != '?' && c != '#'
  if !path.all isPathChar then .error .invalidCharacter
  else match rest with
    | '?' :: more =>
      let query := more.takeWhile (· != '#')
      if query.all isQueryChar then .ok (String.ofList path, some (String.ofList query))
      else .error .invalidCharacter
    | _ => .ok (String.ofList path, none)

/-- What has been seen of an authority so far. -/
structure AuthorityScan where
  colons : Nat := 0
  opened : Bool := false
  closed : Bool := false
  percent : Bool := false
  lastIsAt : Bool := false

/-- Takes one character of an authority into account. -/
def AuthorityScan.step (st : AuthorityScan) (c : Char) : Except TargetError AuthorityScan :=
  let st := { st with lastIsAt := false }
  if c == ':' then
    if 8 ≤ st.colons then .error .invalidAuthority
    else .ok { st with colons := st.colons + 1 }
  else if c == '[' then
    if st.percent || st.opened then .error .invalidAuthority else .ok { st with opened := true }
  else if c == ']' then
    if !st.opened || st.closed then .error .invalidAuthority
    else .ok { st with closed := true, colons := 0, percent := false }
  else if c == '@' then .ok { st with lastIsAt := true, colons := 0, percent := false }
  else if c == '%' then .ok { st with percent := true }
  else if isAuthorityChar c then .ok st
  else .error .invalidCharacter

/-- Checks an authority: at most one port, brackets in a pair around an address, no
escape in the host. -/
def checkAuthority (cs : List Char) : Except TargetError Unit := do
  let st ← cs.foldlM AuthorityScan.step {}
  if st.opened != st.closed || 1 < st.colons || st.lastIsAt || st.percent then
    .error .invalidAuthority
  else .ok ()

/-- Splits an authority from what follows it. -/
def splitAuthority (cs : List Char) : List Char × List Char :=
  cs.span fun c => c != '/' && c != '?' && c != '#'

def isSchemeChar (c : Char) : Bool := c.isAlphanum || "+-.~".toList.contains c

/-- The scheme in front of a colon and two slashes, and what follows them. The two
known schemes are written in small letters. A scheme may be empty, but a colon and two
slashes alone are none. -/
def splitScheme (cs : List Char) : Except TargetError (Option String × List Char) :=
  let name := cs.takeWhile isSchemeChar
  match cs.dropWhile isSchemeChar with
  | ':' :: '/' :: '/' :: rest =>
    if name.isEmpty && rest.isEmpty then .ok (none, cs) else
    let low := Text.lower (String.ofList name)
    if low == "http" || low == "https" then .ok (some low, rest)
    else if 64 < name.length then .error .schemeTooLong
    else .ok (some (String.ofList name), rest)
  | _ => .ok (none, cs)

/-- Reads a target that begins with no slash. Something must follow a scheme. -/
def readFull (cs : List Char) : Except TargetError Target := do
  let (scheme, cs) ← splitScheme cs
  if cs.isEmpty then .error .empty
  let (authority, rest) := splitAuthority cs
  checkAuthority authority
  match scheme with
  | none =>
    if rest.isEmpty then .ok ⟨none, String.ofList authority, "", none⟩
    else .error .invalidFormat
  | some s =>
    if authority.isEmpty then .error .invalidFormat
    else
      let (path, query) ← pathAndQuery rest
      .ok ⟨some s, String.ofList authority, path, query⟩

/-- Reads a whole text as a target. -/
def read (s : String) : Except TargetError Target :=
  let cs := s.toList
  if 65534 < s.utf8ByteSize then .error .tooLong
  else match cs with
    | [] => .error .empty
    | ['*'] => .ok ⟨none, "", "*", none⟩
    | ['?'] => .error .invalidCharacter
    | ['#'] => .error .invalidCharacter
    | '/' :: _ => do
      let (path, query) ← pathAndQuery cs
      .ok ⟨none, "", path, query⟩
    | _ => readFull cs

/-- The text of a target. -/
def render (t : Target) : String :=
  let start := match t.scheme with
    | some s => s ++ "://"
    | none => ""
  let path := if t.scheme.isSome && t.path.isEmpty then "/" else t.path
  let query := match t.query with
    | some q => "?" ++ q
    | none => ""
  start ++ t.authority ++ path ++ query

end Target

end ServiceDispatch
