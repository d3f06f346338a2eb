import ServiceDispatch.Media.Converter
import ServiceDispatch.Text.Quoted

/-!
# Choosing a media converter

A `ConverterTable` holds converters by media type and one for the wildcard. A body
is given the converter of its media type, else that of the whole top-level type,
else the wildcard's.
-/

namespace ServiceDispatch

structure ConverterTable where
  /-- Converters by media type in small letters. -/
  converters : Table MediaConverter
  /-- The converter for everything else. -/
  fallback : MediaConverter

namespace ConverterTable

/-- Nothing but the wildcard. -/
def empty : ConverterTable := ⟨[], .wildcard⟩

/-- Adds a converter in place of the one for the same media type. A converter for
the wildcard becomes the fallback. -/
def register (c : MediaConverter) (t : ConverterTable) : ConverterTable :=
  let mediaType := Text.lower c.mediaType
  if mediaType = MediaType.wildcard then { t with fallback := c }
  else { t with converters := Table.insert mediaType c t.converters }

/-- Converters for JSON, plain text and url-encoded forms beside the wildcard. -/
def standard : ConverterTable := ((empty.register .json).register .text).register .form

/-- The converter registered for the media type itself. -/
def get? (contentType : String) (t : ConverterTable) : Option MediaConverter :=
  Table.get? (MediaType.essence contentType) t.converters

/-- The name under which a converter for a whole top-level type is registered. -/
def familyOf? (essence : String) : Option String :=
  (Text.cutAt? '/' essence).map fun p => p.1 ++ "/*"

/-- The converter for a media type that is given by its essence. -/
def selectEssence (essence : String) (t : ConverterTable) : MediaConverter :=
  match Table.get? essence t.converters with
  | some c => c
  | none => match (familyOf? essence).bind fun family => Table.get? family t.converters with
    | some c => c
    | none => t.fallback

/-- The converter for a body with the given content type. -/
def select (contentType : Option String) (t : ConverterTable) : MediaConverter :=
  match contentType with
  | some c => selectEssence (MediaType.essence c) t
  | none => t.fallback

/-- The registered media types in order, the wildcard apart. -/
def mediaTypes (t : ConverterTable) : List String := Table.keys t.converters

/-- The table as a record of names. -/
def describe (t : ConverterTable) : String :=
  Text.record "ConverterRegistry"
    [("media_types", Text.quotedList t.mediaTypes),
     ("fallback", Text.quoted t.fallback.mediaType)]

end ConverterTable

end ServiceDispatch
