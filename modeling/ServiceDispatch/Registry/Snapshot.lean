import ServiceDispatch.Call.Callback
import ServiceDispatch.Failure.Mapper
import ServiceDispatch.Media.Table
import ServiceDispatch.Registry.FilterList
import ServiceDispatch.Registry.Metadata

/-!
# Snapshots of the registry

A `Snapshot` is all that one call needs to know about what is registered. It carries
two things that follow from the rest: the metadata of the services, and the global
filters, those that no service applies itself. `refresh` makes them anew.
-/

namespace ServiceDispatch

structure Snapshot (σ : Type) where
  version : Nat := 0
  /-- Services by base path. -/
  services : Table (Service σ) := []
  metadata : ServiceMetadata := {}
  /-- Providers by the text of their key. -/
  providers : Table (Provider σ) := []
  requestFilters : FilterList (RequestFilter σ) := []
  responseFilters : FilterList (ResponseFilter σ) := []
  /-- The request filters that no service applies itself. -/
  globalRequestFilters : FilterList (RequestFilter σ) := []
  globalResponseFilters : FilterList (ResponseFilter σ) := []
  interceptors : List (Interceptor σ) := []
  mappers : MapperTable := (MapperTable.insert .standard {}).2
  converters : ConverterTable := .standard

namespace Snapshot

variable {σ : Type}

/-- The snapshot of a registry that nothing has been done to. -/
def initial : Snapshot σ := {}

/-- The snapshot with what follows from the services and filters made anew. -/
def refresh (s : Snapshot σ) : Snapshot σ :=
  let metadata := ServiceMetadata.scan s.services
  { s with
    metadata
    globalRequestFilters := FilterList.without metadata.appliesRequestFilter s.requestFilters
    globalResponseFilters := FilterList.without metadata.appliesResponseFilter s.responseFilters }

/-- The service under a base path. -/
def serviceAt? (s : Snapshot σ) (basePath : String) : Option (Service σ) :=
  Table.get? basePath s.services

/-- The provider registered for a key. -/
def provider? (s : Snapshot σ) (key : ContextKey) : Option (Provider σ) :=
  Table.get? key.text s.providers

/-- The media converter for a content type. -/
def mediaConverter (s : Snapshot σ) (contentType : Option String) : MediaConverter :=
  s.converters.select contentType

/-- Whether an instance is registered under some path. -/
def holds (s : Snapshot σ) (service : Service σ) : Bool :=
  (Table.values s.services).any service.isSame

/-- The request filters that a call to a service passes: the global ones, then those
that the service declares and that are registered. -/
def requestFiltersFor (s : Snapshot σ) (service : Service σ) : List (RequestFilter σ) :=
  s.globalRequestFilters.map Prod.snd ++
    service.requestFilters.filterMap fun key => s.requestFilters.find? key

/-- The response filters that a call to a service passes. -/
def responseFiltersFor (s : Snapshot σ) (service : Service σ) : List (ResponseFilter σ) :=
  s.globalResponseFilters.map Prod.snd ++
    service.responseFilters.filterMap fun key => s.responseFilters.find? key

/-- How a snapshot is shown. -/
def describe (s : Snapshot σ) : String :=
  let keys {φ : Type} (fs : FilterList φ) := Text.bracketed (fs.keys.map ValueType.describe)
  Text.record "RegistryState"
    [("version", toString s.version),
     ("services", Text.quotedList (Table.keys s.services)),
     ("metadata", s.metadata.describe),
     ("context_providers",
       Text.bracketed ((Table.values s.providers).map fun p => p.key.describe)),
     ("request_filters", keys s.requestFilters),
     ("response_filters", keys s.responseFilters),
     ("interceptors", toString s.interceptors.length),
     ("exception_mappers", s.mappers.describe),
     ("converters", s.converters.describe)]

theorem refresh_refresh (s : Snapshot σ) : s.refresh.refresh = s.refresh := rfl

end Snapshot

end ServiceDispatch
