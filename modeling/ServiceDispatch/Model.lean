import ServiceDispatch.Call.Callback
import ServiceDispatch.Convert
import ServiceDispatch.Value.Arguments

/-!
# Resource models

A `ResourceModel` describes one method of a service: where each argument comes from,
which fields of the service are filled first, and the handler. A parameter is either
keyed, and then read from one part of the request by a converter, or made of the body,
or an object of the library, or a value that a provider makes.
-/

namespace ServiceDispatch

/-- Parts of a request that hold values by name. -/
inductive KeyedSource where
  | path | query | header | cookie | form | formData
  deriving DecidableEq, Repr

/-- Where the value of a parameter comes from. -/
inductive ParameterSource where
  | keyed (s : KeyedSource)
  | context
  | customContext
  | body
  deriving DecidableEq, Repr

namespace ParameterSource

/-- The name in capitals. -/
def label : ParameterSource → String
  | keyed .path => "PATH"
  | keyed .query => "QUERY"
  | keyed .header => "HEADER"
  | keyed .cookie => "COOKIE"
  | keyed .form => "FORM"
  | keyed .formData => "FORM_DATA"
  | context => "CONTEXT"
  | customContext => "CUSTOM_CONTEXT"
  | body => "BODY"

/-- How a source is shown. -/
def describe : ParameterSource → String
  | keyed .path => "Path"
  | keyed .query => "Query"
  | keyed .header => "Header"
  | keyed .cookie => "Cookie"
  | keyed .form => "Form"
  | keyed .formData => "FormData"
  | context => "Context"
  | customContext => "CustomContext"
  | body => "Body"

end ParameterSource

/-- How the value of a parameter is found. -/
inductive ParameterBinding where
  /-- Under a name in a part of the request. -/
  | keyed (source : KeyedSource) (key : String) (converter : Converter)
  /-- In the body, by the media converter for its content type. -/
  | body (converter : Converter)
  /-- An object of the library, by its type. -/
  | context (target : ValueType)
  /-- Made by the provider for the type. -/
  | customContext (target : ValueType)

/-- What is said about one argument of a handler. -/
structure Parameter where
  binding : ParameterBinding
  default : Option String := none
  qualifier : Option String := none

namespace Parameter

def source (p : Parameter) : ParameterSource :=
  match p.binding with
  | .keyed s _ _ => .keyed s
  | .body _ => .body
  | .context _ => .context
  | .customContext _ => .customContext

def key? (p : Parameter) : Option String :=
  match p.binding with
  | .keyed _ key _ => some key
  | _ => none

def converter? (p : Parameter) : Option Converter :=
  match p.binding with
  | .keyed _ _ c => some c
  | .body c => some c
  | _ => none

/-- The type that the argument is declared with. -/
def target (p : Parameter) : ValueType :=
  match p.binding with
  | .keyed _ _ c => c.target
  | .body c => c.target
  | .context t => t
  | .customContext t => t

/-- The name used in diagnostics: the key, else the declared type. -/
def displayKey (p : Parameter) : String := p.key?.getD p.target.name

/-- The key of the provider for the declared type and the qualifier. -/
def contextKey (p : Parameter) : ContextKey := .new p.target p.qualifier

/-- How a parameter is shown. -/
def describe (p : Parameter) : String :=
  Text.record "ParameterInfo"
    [("source", p.source.describe), ("key", Text.optional Text.quoted p.key?),
     ("default_value", Text.optional Text.quoted p.default),
     ("qualifier", Text.optional Text.quoted p.qualifier), ("target", p.target.describe)]

end Parameter

/-- A field of the service that is filled before each call. -/
structure Field where
  name : String
  declared : ValueType
  qualifier : Option String := none
  deriving DecidableEq, Repr

namespace Field

/-- The key of the provider for the field. -/
def contextKey (f : Field) : ContextKey := .new f.declared f.qualifier

/-- How a field is shown. -/
def describe (f : Field) : String :=
  Text.record "FieldInfo"
    [("name", Text.quoted f.name), ("declared", f.declared.describe),
     ("qualifier", Text.optional Text.quoted f.qualifier)]

end Field

/-- Says that providers make all arguments of a method. -/
structure MethodContext where
  qualifier : Option String := none
  deriving DecidableEq, Repr

/-- How a directive for a whole method is shown. -/
def MethodContext.describe (m : MethodContext) : String :=
  Text.record "MethodContext" [("qualifier", Text.optional Text.quoted m.qualifier)]

/-- What a handler gives back. -/
inductive Reply where
  /-- Nothing but what was written to the sink or the chunk stream. -/
  | empty
  | text (s : String)
  | bytes (b : Bytes)
  /-- A value tree, to be encoded as the media type that the method produces. -/
  | value (j : Json)
  | response (r : Response)

/-- What a handler is given beside the state of the call. -/
structure Invocation where
  args : Arguments
  /-- The form of the request, if binding read it. -/
  form : Option FormParams
  /-- Whether a parameter asked for the chunk stream. -/
  streaming : Bool

/-- The code of a method; it may read the uploads on disk. -/
abbrev Handler (σ : Type) :=
  Invocation → Disk → HandlerState σ → Except Failure Reply × HandlerState σ

/-- One method of a service. -/
structure ResourceModel (σ : Type) where
  name : String
  httpMethod : String := "GET"
  /-- The route below the base path of the service. -/
  path : String := "/"
  /-- The media type of replies that are values, JSON if none is said. -/
  produces : Option String := none
  service : Service σ
  params : List Parameter := []
  fields : List Field := []
  methodContext : Option MethodContext := none
  handler : Handler σ

namespace ResourceModel

/-- The call that runs for a request. -/
def context {σ : Type} (m : ResourceModel σ) (r : Request) : CallContext σ :=
  ⟨m.name, m.service, r⟩

/-- How a model is shown. -/
def describe {σ : Type} (m : ResourceModel σ) : String :=
  Text.record "ResourceModel"
    [("name", Text.quoted m.name), ("http_method", m.httpMethod), ("path", Text.quoted m.path),
     ("service", Text.quoted m.service.name),
     ("params", Text.bracketed (m.params.map Parameter.describe)),
     ("fields", Text.bracketed (m.fields.map Field.describe)),
     ("method_context", Text.optional MethodContext.describe m.methodContext)]

end ResourceModel

end ServiceDispatch
