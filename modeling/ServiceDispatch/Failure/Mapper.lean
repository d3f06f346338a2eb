import ServiceDispatch.Failure.Error
import ServiceDispatch.Http.Response
import ServiceDispatch.Text.Quoted

/-!
# Failure mappers

A mapper answers the failures of one kind and of its specializations. A
`MapperTable` holds at most one mapper for each kind, deeper kinds first and kinds of
one depth by name, so the first mapper that fits a failure is the most specific one.
Mappers for the universal kind are never installed.
-/

namespace ServiceDispatch

structure Mapper where
  /-- The kind of the failures that are answered. -/
  handles : FailureKind
  respond : Failure → Response

/-- Answers binding failures with their status and cause, other failures of the kind
as the server's fault. -/
def Mapper.standard : Mapper where
  handles := .dispatch
  respond
    | .binding e => Response.jsonError e.status e.cause.message
    | failure => Response.jsonError 500 failure.message

/-- Mappers, most specific first. -/
structure MapperTable where
  entries : List Mapper := []

namespace MapperTable

/-- Whether a kind stands before another: it is deeper, or as deep and earlier by name. -/
def sortsBefore (k l : FailureKind) : Bool :=
  l.depth < k.depth || (k.depth == l.depth && k.name < l.name)

/-- Puts a mapper in place of the first one for the same kind. -/
def replaceFirst (m : Mapper) : List Mapper → List Mapper
  | [] => []
  | e :: es => if e.handles.same m.handles then m :: es else e :: replaceFirst m es

/-- Puts a mapper in front of the first one that it stands before. -/
def place (m : Mapper) : List Mapper → List Mapper
  | [] => [m]
  | e :: es => if sortsBefore m.handles e.handles then m :: e :: es else e :: place m es

/-- Installs a mapper, in place of one for the same kind; tells whether it did. -/
def insert (m : Mapper) (t : MapperTable) : Bool × MapperTable :=
  if m.handles.isUniversal then (false, t)
  else if t.entries.any fun e => e.handles.same m.handles then (true, ⟨replaceFirst m t.entries⟩)
  else (true, ⟨place m t.entries⟩)

/-- Removes the first mapper for a kind, and gives it. -/
def remove (k : FailureKind) (t : MapperTable) : Option Mapper × MapperTable :=
  match t.entries.find? fun e => e.handles.same k with
  | some m => (some m, ⟨t.entries.eraseP fun e => e.handles.same k⟩)
  | none => (none, t)

/-- The first mapper whose kind the failure is a specialization of. -/
def find? (failure : Failure) (t : MapperTable) : Option Mapper :=
  t.entries.find? fun e => failure.kind.isA e.handles

/-- The kinds with a mapper, in order. -/
def kinds (t : MapperTable) : List FailureKind := t.entries.map Mapper.handles

/-- How a table is shown: by the names of its kinds. -/
def describe (t : MapperTable) : String := Text.quotedList (t.kinds.map FailureKind.name)

/-- The answer to a failure that no mapper fits. -/
def unmapped : Response := Response.jsonError 500 "Internal Server Error"

/-- The answer to a failure: its mapper's, if one fits. -/
def respond (failure : Failure) (t : MapperTable) : Response :=
  match t.find? failure with
  | some m => m.respond failure
  | none => unmapped

end MapperTable

end ServiceDispatch
