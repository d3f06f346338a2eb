import ServiceDispatch.Form.Disk
import ServiceDispatch.Media.Type

/-!
# What goes wrong with a form

Except for trouble with the disk the request itself is at fault.
-/

namespace ServiceDispatch

/-- Why a body is no form. -/
inductive FormFault where
  | noOpeningBoundary
  | boundaryLineOpen
  | dataAfterBoundary
  | headersOpen
  | headersNotText
  | invalidHeader (line : String)
  | partOpen
  | noFieldName
  | fieldNotText (name : String)
  | notMultipart (contentType : String)
  /-- A fault that another reader of forms describes. -/
  | described (text : String)
  deriving DecidableEq, Repr

def FormFault.message : FormFault → String
  | .noOpeningBoundary => "missing opening boundary"
  | .boundaryLineOpen => "boundary line is not terminated"
  | .dataAfterBoundary => "unexpected data after boundary"
  | .headersOpen => "part headers are not terminated"
  | .headersNotText => "part headers are not valid UTF-8"
  | .invalidHeader line => s!"invalid part header: {line}"
  | .partOpen => "part is not terminated by a boundary"
  | .noFieldName => "part has no field name"
  | .fieldNotText name => s!"field {name} is not valid UTF-8"
  | .notMultipart contentType =>
    s!"expected {MediaType.multipartForm}, got '{contentType}'"
  | .described text => text

inductive FormError where
  | missingBoundary
  | malformed (fault : FormFault)
  | tooManyParts (limit : Nat)
  | tooLarge (limit actual : Nat)
  | disk (e : DiskError)
  deriving DecidableEq, Repr

namespace FormError

/-- The name of the error in reports. -/
def code : FormError → String
  | .missingBoundary => "MissingBoundary"
  | .malformed _ => "Malformed"
  | .tooManyParts _ => "TooManyParts"
  | .tooLarge _ _ => "TooLarge"
  | .disk _ => "Io"

def message : FormError → String
  | .missingBoundary => "multipart content type has no boundary"
  | .malformed fault => s!"malformed multipart body: {fault.message}"
  | .tooManyParts limit => s!"form has more than {limit} parts"
  | .tooLarge limit actual => s!"form body of {actual} bytes exceeds the {limit} byte limit"
  | .disk e => s!"IO error: {e.message}"

/-- Whether the request itself is at fault. -/
def isClientError : FormError → Bool
  | .disk _ => false
  | _ => true

end FormError

end ServiceDispatch
