import ServiceDispatch.Text.Ascii
import ServiceDispatch.Text.Blank
import ServiceDispatch.Text.Cut

/-!
# Media types

The essence of a content type is its media type without parameters, trimmed and in
small letters. Media types are compared by it.
-/

namespace ServiceDispatch.MediaType

def json : String := "application/json"
def plainText : String := "text/plain"
def formUrlEncoded : String := "application/x-www-form-urlencoded"
def multipartForm : String := "multipart/form-data"
def octetStream : String := "application/octet-stream"
def wildcard : String := "*/*"

/-- The media type without its parameters, in small letters. -/
def essence (contentType : String) : String :=
  let cs := contentType.toList.takeWhile (· != ';')
  Text.lower (String.ofList (Text.trimChars cs))

end ServiceDispatch.MediaType
