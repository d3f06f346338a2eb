import ServiceDispatch.Json.Printer
import ServiceDispatch.Json.Reader
import ServiceDispatch.Media.Type
import ServiceDispatch.UrlEncoded

/-!
# Media converters

A `MediaConverter` turns a body of one media type into a value tree and a tree
into a body. The ones defined here are for JSON, plain text and url-encoded forms,
and the wildcard, which reads JSON where the body is JSON and text elsewhere.
-/

namespace ServiceDispatch

/-- Why a body cannot be decoded or a tree cannot be encoded. -/
inductive MediaError where
  | json (m : Json.Mistake)
  | utf8 (e : Utf8.Error)
  | unrepresentable (mediaType value : String)
  deriving DecidableEq, Repr

/-- The name of the error in reports. -/
def MediaError.code : MediaError → String
  | .json _ => "Json"
  | .utf8 _ => "Utf8"
  | .unrepresentable _ _ => "Unrepresentable"

def MediaError.message : MediaError → String
  | .json m => s!"JSON error: {m.message}"
  | .utf8 e => s!"body is not valid UTF-8: {e.message}"
  | .unrepresentable mediaType value => s!"{mediaType} cannot represent {value}"

structure MediaConverter where
  mediaType : String
  decode : Bytes → Except MediaError Json
  encode : Json → Except MediaError Bytes

namespace MediaConverter

/-- A tree as text: a text as it is, everything else in compact form. -/
def scalarText : Json → String
  | .text s => s
  | j => j.render

def decodeJson (body : Bytes) : Except MediaError Json :=
  match Json.read body with
  | .ok j => .ok j
  | .error m => .error (.json m)

def decodeText (body : Bytes) : Except MediaError Json :=
  match Utf8.decode body with
  | .ok s => .ok (.text s)
  | .error e => .error (.utf8 e)

/-- What a name stands for after one more value: a text, and from the second value
on a list of texts. -/
def addValue (value : String) : Option Json → Json
  | none => .text value
  | some (.list values) => .list (values ++ [.text value])
  | some first => .list [first, .text value]

/-- The object of a list of pairs; repeated names become lists. -/
def gather (pairs : List (String × String)) : List (String × Json) :=
  pairs.foldl (fun t p => Table.alter p.1 (addValue p.2) t) []

/-- The pairs that a member of an object is written as. -/
def memberPairs (m : String × Json) : List (String × String) :=
  match m.2 with
  | .list values => values.map fun v => (m.1, scalarText v)
  | other => [(m.1, scalarText other)]

def encodeForm : Json → Except MediaError Bytes
  | .object members => .ok (UrlEncoded.render (members.flatMap memberPairs))
  | other => .error (.unrepresentable MediaType.formUrlEncoded other.render)

def json : MediaConverter where
  mediaType := MediaType.json
  decode := decodeJson
  encode j := .ok (Utf8.encode j.render)

def text : MediaConverter where
  mediaType := MediaType.plainText
  decode := decodeText
  encode j := .ok (Utf8.encode (scalarText j))

/-- Forms; a name with several values is a list of texts. -/
def form : MediaConverter where
  mediaType := MediaType.formUrlEncoded
  decode body := .ok (.object (gather (UrlEncoded.parse body)))
  encode := encodeForm

/-- Reads JSON where the body is JSON and text elsewhere. -/
def wildcard : MediaConverter where
  mediaType := MediaType.wildcard
  decode body := match Json.read body with
    | .ok j => .ok j
    | .error _ => decodeText body
  encode j := .ok (Utf8.encode (scalarText j))

end MediaConverter

end ServiceDispatch
