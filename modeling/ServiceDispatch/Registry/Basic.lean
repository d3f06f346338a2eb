import ServiceDispatch.Config
import ServiceDispatch.Registry.Snapshot

/-!
# The registry

A `Registry` publishes one snapshot after another. Every change goes through `update`,
which makes the derived parts of the snapshot anew and counts the version up, whether
or not anything changed. Beside the snapshot the registry notes which service instances
have been initialized.

Of two providers or filters for one key the first stays; of two services for one path
the last.
-/

namespace ServiceDispatch

structure Registry (σ : Type) where
  snapshot : Snapshot σ := .initial
  /-- The numbers of the services whose first hook has run. -/
  initialized : List Nat := []
  config : DispatchConfig := {}

namespace Registry

variable {σ : Type}

/-- Publishes a changed snapshot. -/
def update {α : Type} (r : Registry σ) (change : Snapshot σ → α × Snapshot σ) :
    α × Registry σ :=
  let (result, next) := change r.snapshot
  (result, { r with snapshot := { next.refresh with version := next.version + 1 } })

/-- Publishes a changed snapshot when there is nothing to tell about the change. -/
def modify (r : Registry σ) (change : Snapshot σ → Snapshot σ) : Registry σ :=
  (r.update fun s => ((), change s)).2

/-! ### Providers -/

/-- Registers a provider unless its key is taken; tells whether it did. -/
def addProvider (p : Provider σ) (r : Registry σ) : Bool × Registry σ :=
  r.update fun s =>
    if (s.provider? p.key).isSome then (false, s)
    else (true, { s with providers := Table.insert p.key.text p s.providers })

/-- Removes a provider, and tells it so. -/
def removeProvider (key : ContextKey) (r : Registry σ) (app : σ) :
    Option (Provider σ) × Registry σ × σ :=
  let (removed, r) := r.update fun s =>
    (s.provider? key, { s with providers := Table.erase key.text s.providers })
  (removed, r, match removed with
    | some p => p.onRemove app
    | none => app)

/-! ### Filters -/

/-- Registers a request filter unless its key is taken; tells whether it did. -/
def addRequestFilter (key : ValueType) (filter : RequestFilter σ) (r : Registry σ) :
    Bool × Registry σ :=
  r.update fun s =>
    let (added, requestFilters) := s.requestFilters.register key filter
    (added, { s with requestFilters })

def removeRequestFilter (key : ValueType) (r : Registry σ) : Bool × Registry σ :=
  r.update fun s =>
    let (removed, requestFilters) := s.requestFilters.remove key
    (removed, { s with requestFilters })

/-- Registers a response filter unless its key is taken; tells whether it did. -/
def addResponseFilter (key : ValueType) (filter : ResponseFilter σ) (r : Registry σ) :
    Bool × Registry σ :=
  r.update fun s =>
    let (added, responseFilters) := s.responseFilters.register key filter
    (added, { s with responseFilters })

def removeResponseFilter (key : ValueType) (r : Registry σ) : Bool × Registry σ :=
  r.update fun s =>
    let (removed, responseFilters) := s.responseFilters.remove key
    (removed, { s with responseFilters })

/-! ### Interceptors -/

/-- Adds an interceptor behind the others; one instance may be added repeatedly. -/
def addInterceptor (i : Interceptor σ) (r : Registry σ) : Registry σ :=
  r.modify fun s => { s with interceptors := s.interceptors ++ [i] }

/-- Removes every registration of an instance; tells whether there was one. -/
def removeInterceptor (id : Nat) (r : Registry σ) : Bool × Registry σ :=
  r.update fun s =>
    (s.interceptors.any fun i => i.id == id,
      { s with interceptors := s.interceptors.filter fun i => i.id != id })

/-! ### Failure mappers -/

/-- Installs a mapper, in place of one for the same kind; tells whether it did. -/
def addMapper (m : Mapper) (r : Registry σ) : Bool × Registry σ :=
  r.update fun s =>
    let (added, mappers) := s.mappers.insert m
    (added, { s with mappers })

/-- Installs mappers in one change. -/
def addMappers (ms : List Mapper) (r : Registry σ) : Registry σ :=
  r.modify fun s =>
    { s with mappers := ms.foldl (fun t m => (t.insert m).2) s.mappers }

def removeMapper (kind : FailureKind) (r : Registry σ) : Option Mapper × Registry σ :=
  r.update fun s =>
    let (removed, mappers) := s.mappers.remove kind
    (removed, { s with mappers })

/-! ### Media converters -/

def addConverter (c : MediaConverter) (r : Registry σ) : Registry σ :=
  r.modify fun s => { s with converters := s.converters.register c }

end Registry

end ServiceDispatch
