import ServiceDispatch.Form.Extract
import ServiceDispatch.Json.Reader
import ServiceDispatch.Logging
import ServiceDispatch.Toml.Document

/-!
# Configuration

A `DispatchConfig` is read from a TOML or a JSON text and then overridden by variables
of the environment. Both formats are first brought into one form, a `Setting`; what is
not understood there is ignored, but what is understood must have the right type.
-/

namespace ServiceDispatch

/-- A value of a configuration text. -/
inductive Setting where
  | null
  | bool (b : Bool)
  | integer (n : Int)
  | text (s : String)
  | list (items : List Setting)
  | table (entries : List (String × Setting))
  /-- A date or a time, which is like a table of which nothing is understood. -/
  | moment
  /-- A value that nothing is configured by. -/
  | other
  /-- A number without a value, or too large for any type of numbers. -/
  | unreadable
  deriving Inhabited

/-- The texts that a configuration is read from. -/
inductive ConfigFormat where
  | toml
  | json
  deriving DecidableEq, Repr

namespace ConfigFormat

/-- The format that a file extension stands for. -/
def ofExtension? (extension : String) : Option ConfigFormat :=
  let low := Text.lower extension
  if low = "toml" then some toml else if low = "json" then some json else none

/-- The parts of a path between slashes, without empty ones and single dots. -/
def pathParts (path : String) : List (List Char) :=
  (Text.pieces ['/'] path.toList).filter fun part => !part.isEmpty && part != ['.']

/-- What stands behind the last dot of a file name that does not begin with it. -/
def extension (path : String) : String :=
  let name := (pathParts path).getLast?.getD []
  let last := (name.reverse.takeWhile (· != '.')).reverse
  if last.length + 1 < name.length && name != ['.', '.'] then String.ofList last else ""

end ConfigFormat

namespace Setting

mutual

def ofJson : Json → Setting
  | .null => .null
  | .bool b => .bool b
  | .number (.whole n) => .integer n
  | .number _ => .other
  | .text s => .text s
  | .list items => .list (ofJsonItems items)
  | .object members => .table (ofJsonMembers members)

def ofJsonItems : List Json → List Setting
  | [] => []
  | j :: js => ofJson j :: ofJsonItems js

def ofJsonMembers : List (String × Json) → List (String × Setting)
  | [] => []
  | (k, j) :: ms => (k, ofJson j) :: ofJsonMembers ms

end

/-- Whether an integer fits 128 bits, with a sign or without. -/
def fitsWide (n : Int) : Bool :=
  decide (IntegerFormat.Fits ⟨true, 128⟩ n) || decide (IntegerFormat.Fits ⟨false, 128⟩ n)

def ofScalar : Toml.Scalar → Setting
  | .text s => .text s
  | .integer n => if fitsWide n then .integer n else .unreadable
  | .bool b => .bool b
  | .floating => .other
  | .unreadable => .unreadable
  | .moment => .moment

mutual

def ofToml : Toml → Setting
  | .scalar s => ofScalar s
  | .list items => .list (ofTomlItems items)
  | .inline entries => .table (ofTomlEntries entries)
  | .table _ entries => .table (ofTomlEntries entries)
  | .tables items => .list (ofTomlTables items)

def ofTomlItems : List Toml → List Setting
  | [] => []
  | v :: vs => ofToml v :: ofTomlItems vs

def ofTomlEntries : List (String × Toml) → List (String × Setting)
  | [] => []
  | (k, v) :: es => (k, ofToml v) :: ofTomlEntries es

def ofTomlTables : List (List (String × Toml)) → List Setting
  | [] => []
  | t :: ts => .table (ofTomlEntries t) :: ofTomlTables ts

end

/-- The text of a setting in a format, as a setting. -/
def read? (format : ConfigFormat) (content : String) : Option Setting :=
  match format with
  | .toml => (Toml.read? content).map fun es => .table (ofTomlEntries es)
  | .json => (Json.readAsWritten (Utf8.encode content)).toOption.map ofJson

mutual

/-- Whether a setting can be passed over, which it cannot with a number in it that has no
value. -/
def isIgnorable : Setting → Bool
  | .unreadable => false
  | .list items => areIgnorable items
  | .table entries => entriesIgnorable entries
  | _ => true

def areIgnorable : List Setting → Bool
  | [] => true
  | s :: ss => isIgnorable s && areIgnorable ss

def entriesIgnorable : List (String × Setting) → Bool
  | [] => true
  | (_, s) :: es => isIgnorable s && entriesIgnorable es

end

/-- What stands for nothing beside a name: in JSON a null, in TOML something empty. -/
def isUnit : ConfigFormat → Setting → Bool
  | .json, .null => true
  | .toml, .list [] => true
  | .toml, .table [] => true
  | _, _ => false

def text? : Setting → Option String
  | .text s => some s
  | _ => none

def bool? : Setting → Option Bool
  | .bool b => some b
  | _ => none

/-- A size: a whole number of 64 bits without sign. -/
def size? : Setting → Option Nat
  | .integer n => if IntegerFormat.word64.Fits n then some n.toNat else none
  | _ => none

/-- A setting that may be null. -/
def orNull? {α : Type} (read : Setting → Option α) : Setting → Option (Option α)
  | .null => some none
  | s => (read s).map some

/-- A name, alone or as the only key of a table. -/
def name? (format : ConfigFormat) : Setting → Option String
  | .text s => some s
  | .table [(s, v)] => if isUnit format v then some s else none
  | _ => none

/-- The settings of a record by field, `none` for those left out. A table names the
fields, each at most once, and what else it holds is passed over; a list gives them in
order, and in JSON no more. -/
def fields? (format : ConfigFormat) (names : List String) : Setting → Option (List (Option Setting))
  | .table entries =>
    let found (name : String) := (entries.filter fun e => e.1 == name).map Prod.snd
    let others := entries.filter fun e => !names.contains e.1
    if (names.any fun name => 1 < (found name).length) || !entriesIgnorable others then none
    else some (names.map fun name => (found name).head?)
  | .list items =>
    if format == .json && names.length < items.length then none
    else some (names.mapIdx fun i _ => items[i]?)
  | .moment => some (names.map fun _ => none)
  | _ => none

/-- A field that keeps what it has when it is left out. -/
def orElse? {α : Type} (read : Setting → Option α) (before : α) : Option Setting → Option α
  | none => some before
  | some s => read s

end Setting

/-- How requests are dispatched. -/
structure DispatchConfig where
  /-- Where request directories are made, unless it is the standard place. -/
  tempRoot : Option String := none
  /-- The media type of a body without content type. -/
  defaultMediaType : String := MediaType.wildcard
  maxFormParts : Nat := MultipartForm.standardLimit
  maxFormBytes : Option Nat := none
  /-- Whether a cookie's default also stands in for a missing cookie header. -/
  cookieDefaultWithoutHeader : Bool := false
  log : Option LogSettings := none
  deriving DecidableEq, Repr

/-- Why there is no configuration. -/
inductive ConfigError where
  | io (path : String) (e : DiskError)
  | unsupportedFormat (path : String)
  | parse
  | invalidValue (key value : String)
  | logging (e : LogError)
  deriving DecidableEq, Repr

/-- The name of the error in reports. -/
def ConfigError.code : ConfigError → String
  | .io _ _ => "Io"
  | .unsupportedFormat _ => "UnsupportedFormat"
  | .parse => "ParseError"
  | .invalidValue _ _ => "InvalidValue"
  | .logging (.file _ _) => "Io"
  | .logging (.invalidFilter _) => "Logging"

def ConfigError.message : ConfigError → String
  | .io path e => s!"Failed to read configuration file {path}: {e.message}"
  | .unsupportedFormat path => s!"Unsupported configuration format: {path}"
  | .parse => "Failed to parse configuration"
  | .invalidValue key value => s!"Invalid value {Text.quoted value} for {key}"
  | .logging (.file path e) => s!"Failed to read configuration file {path}: {e.message}"
  | .logging (.invalidFilter directives) =>
    s!"Failed to initialize logging: invalid filter '{directives}': " ++
      "error parsing level filter: expected one of \"off\", \"error\", \"warn\", " ++
      "\"info\", \"debug\", \"trace\", or a number 0-5"

namespace DispatchConfig

def formLimits (c : DispatchConfig) : FormLimits := ⟨c.maxFormParts, c.maxFormBytes⟩

/-- The settings about logs. -/
def logSettings? (format : ConfigFormat) (s : Setting) : Option LogSettings := do
  let fields ← Setting.fields? format ["level", "format", "filter"] s
  let field (i : Nat) := fields[i]?.join
  let level ← Setting.orElse? (fun s => (s.name? format).bind LogLevel.ofName?) .info (field 0)
  let form ← Setting.orElse? (fun s => (s.name? format).bind LogFormat.ofName?) .json (field 1)
  let filter ← Setting.orElse? (Setting.orNull? Setting.text?) none (field 2)
  return ⟨level, form, filter⟩

/-- The configuration that a setting describes. -/
def ofSetting? (format : ConfigFormat) (s : Setting) : Option DispatchConfig := do
  let fields ← Setting.fields? format
    ["temp_root", "default_media_type", "max_form_parts", "max_form_bytes",
     "cookie_default_without_header", "log"] s
  let field (i : Nat) := fields[i]?.join
  let start : DispatchConfig := {}
  let tempRoot ← Setting.orElse? (fun s => s.text?.map some) start.tempRoot (field 0)
  let defaultMediaType ← Setting.orElse? Setting.text? start.defaultMediaType (field 1)
  let maxFormParts ← Setting.orElse? Setting.size? start.maxFormParts (field 2)
  let maxFormBytes ← Setting.orElse? (Setting.orNull? Setting.size?) none (field 3)
  let cookie ← Setting.orElse? Setting.bool? start.cookieDefaultWithoutHeader (field 4)
  let log ← Setting.orElse? (Setting.orNull? (logSettings? format)) none (field 5)
  return ⟨tempRoot, defaultMediaType, maxFormParts, maxFormBytes, cookie, log⟩

/-- Reads a configuration text. -/
def parse (format : ConfigFormat) (content : String) : Except ConfigError DispatchConfig :=
  match (Setting.read? format content).bind (ofSetting? format) with
  | some c => .ok c
  | none => .error .parse

/-- What a file system says to a path that leads nowhere. -/
def missingFile (path : String) : DiskError :=
  let first := (ConfigFormat.pathParts path).find? fun part => part != ['.', '.']
  let size (cs : List Char) := (Utf8.encode (String.ofList cs)).length
  if path.toList.contains (Char.ofNat 0) then
    .described "file name contained an unexpected NUL byte"
  else if 4096 ≤ size path.toList || Disk.nameLimit < size (first.getD []) then .nameTooLong
  else .notFound

/-- Reads a configuration file; `content` is what reading the file gives. -/
def load (path : String) (content : Except DiskError String) : Except ConfigError DispatchConfig :=
  match ConfigFormat.ofExtension? (ConfigFormat.extension path) with
  | none => .error (.unsupportedFormat path)
  | some format => match content with
    | .error e => .error (.io path e)
    | .ok text => parse format text

/-- The name of a variable of the environment. -/
def variableName (name : String) : String := "CONDUIT_" ++ name

/-- The value of a variable, if it is set, as something else than text. -/
def override? {α : Type} (env : Table String) (name : String) (read : String → Option α) :
    Except ConfigError (Option α) :=
  match Table.get? (variableName name) env with
  | none => .ok none
  | some value => match read (Text.trim value) with
    | some a => .ok (some a)
    | none => .error (.invalidValue (variableName name) value)

/-- A size as a variable writes it. -/
def readSize? (s : String) : Option Nat := (IntegerFormat.word64.read s).toOption.map Int.toNat

/-- A truth value as a variable writes it. -/
def readBool? (s : String) : Option Bool :=
  if s = "true" then some true else if s = "false" then some false else none

/-- The configuration with what the environment overrides. -/
def withOverrides (c : DispatchConfig) (env : Table String) :
    Except ConfigError DispatchConfig := do
  let tempRoot := Table.get? (variableName "TEMP_ROOT") env
  let mediaType := Table.get? (variableName "DEFAULT_MEDIA_TYPE") env
  let parts ← override? env "MAX_FORM_PARTS" readSize?
  let bytes ← override? env "MAX_FORM_BYTES" readSize?
  let cookie ← override? env "COOKIE_DEFAULT_WITHOUT_HEADER" readBool?
  return { c with
    tempRoot := tempRoot <|> c.tempRoot
    defaultMediaType := mediaType.getD c.defaultMediaType
    maxFormParts := parts.getD c.maxFormParts
    maxFormBytes := bytes <|> c.maxFormBytes
    cookieDefaultWithoutHeader := cookie.getD c.cookieDefaultWithoutHeader }

/-- The configuration of logs, if anything is said about them. -/
def logConfig? (c : DispatchConfig) : Option LogConfig := c.log.map LogConfig.ofSettings

end DispatchConfig

end ServiceDispatch
