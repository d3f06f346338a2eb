import ServiceDispatch.Failure.Error
import ServiceDispatch.Form.Multipart
import ServiceDispatch.Form.Params
import ServiceDispatch.Http.Response
import ServiceDispatch.Json.Encode
import ServiceDispatch.Media.Converter
import ServiceDispatch.Value.Arguments

/-!
# Reports

What the library tells of messages, of the parts of a form and of errors, as value
trees. An error is told by its name and its message; the failure to bind a call and a
refusal of the registry are told with their kind and the status that answers them.
-/

namespace ServiceDispatch

/-! ### Messages and forms -/

instance : ToJson Response where
  toJson r := .ofFields "status headers body"
    [toJson r.status, toJson r.headers.toList, toJson r.body]

instance : ToJson ChunkStream where
  toJson s := .ofFields "content_type used finished"
    [toJson s.contentType, toJson s.isUsed, toJson s.finished]

instance : ToJson FileInfo where
  toJson i := .ofFields "file_name content_type size"
    [toJson i.fileName, toJson i.contentType, toJson i.size]

instance : ToJson Part where
  toJson p := .ofFields "name file_name content_type headers is_file data"
    [toJson p.name, toJson p.fileName, toJson p.contentType, toJson p.headers,
     toJson p.isFile, toJson p.data]

/-! ### Errors -/

/-- The report of an error by its name and its message. -/
def errorReport (code message : String) : Json :=
  .ofFields "error message" [.text code, .text message]

instance : ToJson DiskError := ⟨fun e => errorReport "Io" e.message⟩

instance : ToJson RequestError := ⟨fun e => errorReport "Http" e.message⟩

instance : ToJson FormError := ⟨fun e => errorReport e.code e.message⟩

instance : ToJson MediaError := ⟨fun e => errorReport e.code e.message⟩

instance : ToJson ArgumentError := ⟨fun e => errorReport e.code e.message⟩

instance : ToJson FailureKind := ⟨fun k => .text k.name⟩

instance : ToJson Failure := ⟨fun f => errorReport f.kind.name f.message⟩

instance : ToJson RegistryError where
  toJson e := .ofFields "error message kind status"
    [.text e.code, .text e.message, toJson e.kind, toJson e.status]

instance : ToJson BindingError where
  toJson e := .ofFields "error message kind status client server method line cause"
    [.text e.cause.code, .text e.message, toJson e.cause.kind, toJson e.status,
     toJson e.isClientError, toJson e.isServerError, .text e.method, .text e.line,
     .text e.cause.message]

end ServiceDispatch
