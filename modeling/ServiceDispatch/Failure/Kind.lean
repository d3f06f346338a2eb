/-!
# Failure kinds

Kinds of failures form a forest under the universal kind. A kind is told from others
by its name, and a specialization names the kind that it specializes. `chain` lists a
kind with all that were named above it; a kind that names nothing above it is a
direct specialization of the universal kind all the same.
-/

namespace ServiceDispatch

inductive FailureKind where
  /-- The kind that every failure is a specialization of. -/
  | any
  /-- A kind that names no other above it. -/
  | root (name : String)
  | child (name : String) (parent : FailureKind)
  deriving DecidableEq, Repr

namespace FailureKind

def name : FailureKind → String
  | any => "conduit::AnyFailure"
  | root name => name
  | child name _ => name

def isUniversal : FailureKind → Bool
  | any => true
  | _ => false

/-- The kind above; only the universal kind has none. -/
def parent? : FailureKind → Option FailureKind
  | any => none
  | root _ => some any
  | child _ parent => some parent

/-- The kind and those named above it, nearest first. -/
def chain : FailureKind → List FailureKind
  | any => [any]
  | root name => [root name]
  | child name parent => child name parent :: parent.chain

/-- Equality of kinds: the same name, and both universal or neither. -/
def same (k l : FailureKind) : Bool := k.name == l.name && k.isUniversal == l.isUniversal

/-- Whether a kind is another one or a specialization of it. -/
def isA (k other : FailureKind) : Bool :=
  other.isUniversal || k.chain.any fun l => l.name == other.name && !l.isUniversal

/-- The length of the chain; the universal kind itself counts nothing. -/
def depth (k : FailureKind) : Nat := if k.isUniversal then 0 else k.chain.length

/-- How a kind is shown. -/
def describe (k : FailureKind) : String := s!"FailureKind({k.name})"

@[simp] theorem chain_any : any.chain = [any] := rfl

@[simp] theorem chain_root (n : String) : (root n).chain = [root n] := rfl

@[simp] theorem chain_child (n : String) (p : FailureKind) :
    (child n p).chain = child n p :: p.chain := rfl

theorem isA_any (k : FailureKind) : k.isA any = true := by simp [isA, isUniversal]

theorem mem_chain_self (k : FailureKind) : k ∈ k.chain := by cases k <;> simp

/-- The parent of every binding failure. -/
def dispatch : FailureKind := root "conduit::DispatchError"

def missingParameter : FailureKind := child "conduit::MissingParameterError" dispatch

def conversion : FailureKind := child "conduit::ConversionError" dispatch

def unresolvedContext : FailureKind := child "conduit::UnresolvedContextTypeError" dispatch

def contextBinding : FailureKind := child "conduit::BindingError" dispatch

def formParsing : FailureKind := child "conduit::FormParsingError" dispatch

/-- The parent of every failure of the registry. -/
def registry : FailureKind := root "conduit::RegistryError"

def lifecycle : FailureKind := child "conduit::LifecycleError" registry

end FailureKind

end ServiceDispatch
