import ServiceDispatch.Text.Cut
import ServiceDispatch.Value.Type

/-!
# Context keys

A context provider is registered under a key: the name of the declared type, an at
sign, and a qualifier. Without a qualifier the type name stands in its place. As long
as type names hold no at sign, the first one in a key ends the type name, whatever the
qualifier is.
-/

namespace ServiceDispatch

/-- The key of a context provider. -/
structure ContextKey where
  text : String
  deriving DecidableEq, Repr

namespace ContextKey

/-- The character between type name and qualifier. -/
def separator : Char := '@'

/-- The key for a declared type, narrowed by a qualifier if there is one. -/
def new (declared : ValueType) (qualifier : Option String) : ContextKey :=
  ⟨declared.name ++ separator.toString ++ qualifier.getD declared.name⟩

/-- The name of the declared type: what stands in front of the first separator. -/
def declaredType (k : ContextKey) : String :=
  match Text.cutAt? separator k.text with
  | some (declared, _) => declared
  | none => k.text

/-- How a key is shown. -/
def describe (k : ContextKey) : String := s!"ContextKey({k.text})"

theorem new_none (t : ValueType) : new t none = new t (some t.name) := rfl

end ContextKey

end ServiceDispatch
