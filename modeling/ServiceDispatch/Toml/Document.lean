import ServiceDispatch.Toml.Scalar

/-!
# TOML documents

A document is a sequence of lines: headers, which open a table, and pairs of a key and
a value, which go into the table that is open. A table remembers how it came about,
because that decides what may still be added to it: a table with a header has it once,
one that a dotted key made takes further dotted keys only, and a table inside a line
is closed.
-/

namespace ServiceDispatch

/-- How a table came about. -/
inductive TomlOrigin where
  | header
  /-- On the way to the table of a header. -/
  | path
  /-- On the way to the value of a dotted key. -/
  | dotted
  deriving DecidableEq, Repr

/-- A value of a document. -/
inductive Toml where
  | scalar (s : Toml.Scalar)
  | list (items : List Toml)
  | inline (entries : List (String × Toml))
  | table (origin : TomlOrigin) (entries : List (String × Toml))
  /-- The tables that repeated headers in double brackets open. -/
  | tables (items : List (List (String × Toml)))
  deriving Inhabited

namespace Toml

/-- The entries of a table, in order of their keys' first occurrence. -/
abbrev Entries := List (String × Toml)

/-- Changes what an entry holds, or adds one; fails if the change does. -/
def change (k : String) (f : Option Toml → Option Toml) : Entries → Option Entries
  | [] => (f none).map fun v => [(k, v)]
  | e :: es =>
    if e.1 == k then (f (some e.2)).map fun v => (k, v) :: es
    else (change k f es).map (e :: ·)

/-- Adds an entry that must not exist. -/
def add (k : String) (v : Toml) (es : Entries) : Option Entries :=
  change k (fun old => if old.isNone then some v else none) es

/-- Changes the table at the end of a path of header keys; missing tables are made. -/
def atPath (f : Entries → Option Entries) : List String → Entries → Option Entries
  | [], es => f es
  | k :: ks, es => change k (fun
      | none => (atPath f ks []).map (.table .path)
      | some (.table origin inner) => (atPath f ks inner).map (.table origin)
      | some (.tables items) => match items.reverse with
        | last :: earlier =>
          (atPath f ks last).map fun es => .tables (earlier.reverse ++ [es])
        | [] => none
      | some _ => none) es

/-- Adds a value under a dotted key. The tables on the way must be new or made by
dotted keys; those that headers made on their way, and those of repeated headers, may
be passed but hold no value themselves. -/
def addDotted (v : Toml) : List String → Entries → Option Entries
  | [], _ => none
  | [k], es => add k v es
  | k :: ks, es => change k (fun
      | none => (addDotted v ks []).map (.table .dotted)
      | some (.table .dotted inner) => (addDotted v ks inner).map (.table .dotted)
      | some (.table .path inner) =>
        if ks.length == 1 then none else (addDotted v ks inner).map (.table .path)
      | some (.tables items) => match items.reverse with
        | last :: earlier =>
          if ks.length == 1 then none
          else (addDotted v ks last).map fun es => .tables (earlier.reverse ++ [es])
        | [] => none
      | some _ => none) es

/-- Opens the table of a header. -/
def openTable (k : String) (es : Entries) : Option Entries :=
  change k (fun
    | none => some (.table .header [])
    | some (.table .path inner) => some (.table .header inner)
    | some _ => none) es

/-- Opens one more table of a header in double brackets. -/
def openNext (k : String) (es : Entries) : Option Entries :=
  change k (fun
    | none => some (.tables [[]])
    | some (.tables items) => some (.tables (items ++ [[]]))
    | some _ => none) es

def isBareKey (c : Char) : Bool := c.isAlphanum || c == '_' || c == '-'

/-- One part of a key. -/
def simpleKey? (cs : List Char) : Option (String × List Char) :=
  match cs with
  | '"' :: rest => lineText? '"' true (cs.length + 1) [] rest
  | '\'' :: rest => lineText? '\'' false (cs.length + 1) [] rest
  | _ =>
    let name := cs.takeWhile isBareKey
    if name.isEmpty then none else some (String.ofList name, cs.drop name.length)

/-- The number of lists and tables that may stand one in the other inside a line, and
of parts that a key may have. -/
def depthLimit : Nat := 80

/-- A key of one or more parts between dots, with blanks around them, and at most
`parts` of them. -/
def keyParts? : Nat → List Char → Option (List String × List Char)
  | 0, _ => none
  | parts + 1, cs => match simpleKey? (skipBlanks cs) with
    | none => none
    | some (k, rest) => match skipBlanks rest with
      | '.' :: more => (keyParts? parts more).map fun p => (k :: p.1, p.2)
      | other => some ([k], other)

/-- A key and what follows it. -/
def key? (cs : List Char) : Option (List String × List Char) := keyParts? depthLimit cs

/-- The rest behind a comment, up to the end of its line. -/
def skipComment? (cs : List Char) : Option (List Char) :=
  match cs with
  | '#' :: rest =>
    let body := rest.takeWhile fun c => c != '\n' && c != '\r'
    if body.all isPrintable then some (rest.drop body.length) else none
  | _ => some cs

/-- Skips blanks, comments and line breaks. -/
def skipFiller? : Nat → List Char → Option (List Char)
  | 0, _ => none
  | steps + 1, cs => match skipComment? (skipBlanks cs) with
    | none => none
    | some rest => match lineBreak? rest with
      | some more => skipFiller? steps more
      | none => some rest

/-- Skips what may stand behind the content of a line. -/
def endLine? (cs : List Char) : Option (List Char) :=
  match skipComment? (skipBlanks cs) with
  | none => none
  | some [] => some []
  | some rest => lineBreak? rest

mutual

/-- A value in which lists and tables stand at most `depth` deep, and what follows it. -/
def value? (depth : Nat) : Nat → List Char → Option (Toml × List Char)
  | 0, _ => none
  | steps + 1, cs => match cs with
    | '[' :: rest => if depth = 0 then none else items? (depth - 1) steps [] rest
    | '\x7b' :: rest => if depth = 0 then none else pairs? (depth - 1) steps [] rest
    | _ => (scalar? cs).map fun p => (.scalar p.1, p.2)

/-- The items of a list behind its opening bracket or a comma. -/
def items? (depth : Nat) : Nat → List Toml → List Char → Option (Toml × List Char)
  | 0, _, _ => none
  | steps + 1, passed, cs => match skipFiller? (cs.length + 1) cs with
    | none => none
    | some (']' :: rest) => some (.list passed.reverse, rest)
    | some rest => match value? depth steps rest with
      | none => none
      | some (v, rest) => match skipFiller? (rest.length + 1) rest with
        | some (',' :: more) => items? depth steps (v :: passed) more
        | some (']' :: more) => some (.list (v :: passed).reverse, more)
        | _ => none

/-- The entries of a table inside a line, behind its opening brace or a comma. -/
def pairs? (depth : Nat) : Nat → Entries → List Char → Option (Toml × List Char)
  | 0, _, _ => none
  | steps + 1, es, cs => match skipFiller? (cs.length + 1) cs with
    | none => none
    | some ('\x7d' :: rest) => some (.inline es, rest)
    | some rest => match pair? depth steps rest with
      | none => none
      | some (ks, v, rest) => match addDotted v ks es, skipFiller? (rest.length + 1) rest with
        | some es, some (',' :: more) => pairs? depth steps es more
        | some es, some ('\x7d' :: more) => some (.inline es, more)
        | _, _ => none

/-- A key, an equals sign and a value of a table inside a line. Around the sign there may
be as much as between the entries. -/
def pair? (depth : Nat) : Nat → List Char → Option (List String × Toml × List Char)
  | 0, _ => none
  | steps + 1, cs => match key? cs with
    | none => none
    | some (ks, rest) => match skipFiller? (rest.length + 1) rest with
      | some ('=' :: more) => match skipFiller? (more.length + 1) more with
        | none => none
        | some front => (value? depth steps front).map fun p => (ks, p.1, p.2)
      | _ => none

end

/-- A document in the making: its entries, and the path of the open table. -/
structure Draft where
  entries : Entries := []
  here : List String := []

/-- Opens the table that a header names. -/
def Draft.open? (d : Draft) (ks : List String) (next : Bool) : Option Draft :=
  match ks.reverse with
  | [] => none
  | k :: above =>
    let step := if next then openNext k else openTable k
    (atPath step above.reverse d.entries).map fun es => ⟨es, ks⟩

/-- Puts a pair into the open table. -/
def Draft.put? (d : Draft) (ks : List String) (v : Toml) : Option Draft :=
  (atPath (addDotted v ks) d.here d.entries).map fun es => { d with entries := es }

/-- Reads one line with content. A key, its equals sign and the start of its value are on
one line. -/
def line? (d : Draft) (cs : List Char) : Option (Draft × List Char) :=
  match cs with
  | '[' :: '[' :: rest => match key? rest with
    | some (ks, ']' :: ']' :: more) => (d.open? ks true).map fun d => (d, more)
    | _ => none
  | '[' :: rest => match key? rest with
    | some (ks, ']' :: more) => (d.open? ks false).map fun d => (d, more)
    | _ => none
  | _ => match key? cs with
    | some (ks, '=' :: rest) => match value? depthLimit (2 * cs.length + 4) (skipBlanks rest) with
      | some (v, rest) => (d.put? ks v).map fun d => (d, rest)
      | none => none
    | _ => none

/-- Reads the lines of a document. -/
def lines? : Nat → Draft → List Char → Option Entries
  | 0, _, _ => none
  | steps + 1, d, cs => match skipFiller? (cs.length + 1) cs with
    | none => none
    | some [] => some d.entries
    | some rest => match line? d rest with
      | none => none
      | some (d, rest) => match endLine? rest with
        | none => none
        | some more => lines? steps d more

/-- Reads a whole document; a mark of the byte order may stand in front. -/
def read? (s : String) : Option Entries :=
  let cs := s.toList
  let cs := if cs.head? == some (Char.ofNat 0xfeff) then cs.tail else cs
  lines? (cs.length + 1) {} cs

end Toml

end ServiceDispatch
