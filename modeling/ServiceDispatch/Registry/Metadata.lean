import ServiceDispatch.Call.Service
import ServiceDispatch.Text.Quoted

/-!
# What services declare together

`ServiceMetadata.scan` gathers the base paths that are taken and the filters that some
service applies itself. It is made anew from the registered services whenever they
change, and depends on nothing else.
-/

namespace ServiceDispatch

structure ServiceMetadata where
  basePaths : List String := []
  /-- Keys in the order of their names, each once. -/
  requestFilters : List ValueType := []
  responseFilters : List ValueType := []
  deriving DecidableEq, Repr

namespace ServiceMetadata

/-- Types in the order of their names, each once. -/
def sorted (ts : List ValueType) : List ValueType :=
  ts.foldl (fun acc t => ValueType.insertSorted t acc) []

/-- What the services in a table declare. -/
def scan {σ : Type} (services : Table (Service σ)) : ServiceMetadata where
  basePaths := Table.keys services
  requestFilters := sorted ((Table.values services).flatMap Service.requestFilters)
  responseFilters := sorted ((Table.values services).flatMap Service.responseFilters)

/-- Whether some service applies the request filter itself. -/
def appliesRequestFilter (m : ServiceMetadata) (key : ValueType) : Bool :=
  m.requestFilters.contains key

/-- Whether some service applies the response filter itself. -/
def appliesResponseFilter (m : ServiceMetadata) (key : ValueType) : Bool :=
  m.responseFilters.contains key

/-- How metadata is shown. -/
def describe (m : ServiceMetadata) : String :=
  Text.record "MicroserviceMetadata"
    [("base_paths", Text.braced (m.basePaths.map Text.quoted)),
     ("request_filters", Text.braced (m.requestFilters.map ValueType.describe)),
     ("response_filters", Text.braced (m.responseFilters.map ValueType.describe))]

end ServiceMetadata

end ServiceDispatch
