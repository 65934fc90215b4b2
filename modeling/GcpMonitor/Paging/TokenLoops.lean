import GcpMonitor.Autodiscovery.Descriptors
import GcpMonitor.Entities.GoogleApi
import GcpMonitor.Library.RequestLoop

namespace GcpMonitor.Paging

open Python Entities Autodiscovery ExceptList

abbrev QueryDict := OrderedDict Text Json

def setPageToken (params : QueryDict) (token : Json) : QueryDict :=
  params.set "pageToken".toList token

def pageToken (params : QueryDict) : Option Text :=
  match params.get "pageToken".toList with
  | some (.str token) => some token
  | _ => none

def nextPageToken (answer : ApiAnswer) (default : Json) : Except PyError Json :=
  match answer with
  | .page _ page => page.get "nextPageToken" default
  | _ => .error (.exception "Connection closed")

structure EntityPaging where
  params : QueryDict
  entities : List Entity

def genericPagingLoop (mapper : Mapper) :
    RequestLoop EntityPaging QueryDict ApiAnswer (Except PyError (List Entity)) where
  request := EntityPaging.params
  step state answer :=
    match readPage mapper answer with
    | .raise e => .inr (.error e)
    | .stop => .inr (.ok state.entities)
    | .last mapped => .inr (.ok (state.entities ++ mapped))
    | .next mapped =>
      match nextPageToken answer .null with
      | .error e => .inr (.error e)
      | .ok token => .inl ⟨setPageToken state.params token, state.entities ++ mapped⟩

def EntityPaging.start : EntityPaging := ⟨.empty, []⟩

def serviceName (service : Json) : Except PyError Json := do (← service.item "config").item "name"

def namesBeforeFailure : List Json → List Json
  | [] => []
  | service :: services =>
    match serviceName service with
    | .ok name => name :: namesBeforeFailure services
    | .error _ => []

structure DisabledApisPaging where
  params : QueryDict
  nextToken : Json
  disabledApis : List Json

def DisabledApisPaging.nextParams (state : DisabledApisPaging) : QueryDict :=
  if state.nextToken.truthy then setPageToken state.params state.nextToken else state.params

def DisabledApisPaging.start : DisabledApisPaging where
  params := (OrderedDict.empty.set "filter".toList (text "state:DISABLED")).set "pageSize".toList
    (.int 200)
  nextToken := .null
  disabledApis := []

def services (page : Json) : Except PyError (List Json) := do
  (← page.get "services" (.list [])).iter

def getAllDisabledApisLoop :
    RequestLoop DisabledApisPaging QueryDict ApiAnswer (List Json) where
  request := DisabledApisPaging.nextParams
  step state answer :=
    match answer with
    | .page status page =>
      if status ≠ 200 then .inr state.disabledApis
      else
        match services page with
        | .error _ => .inr state.disabledApis
        | .ok services =>
          let disabledApis := state.disabledApis ++ namesBeforeFailure services
          match services.mapM serviceName, nextPageToken answer .null with
          | .ok _, .ok .null => .inr disabledApis
          | .ok _, .ok token => .inl ⟨state.nextParams, token, disabledApis⟩
          | _, _ => .inr disabledApis
    | _ => .inr state.disabledApis

structure ProjectPaging where
  params : QueryDict
  allProjects : List Json

def ProjectPaging.start : ProjectPaging :=
  ⟨OrderedDict.empty.set "filter".toList (text "lifecycleState:ACTIVE"), []⟩

def projectIds (page : Json) : Except PyError (List Json) := do
  (← (← page.get "projects" (.list [])).iter).mapM (fun project => project.item "projectId")

def loggedProjects (allProjects : List Json) : Except PyError (List Json) :=
  if allProjects.all (fun project =>
    match project with
    | .str _ => true
    | _ => false) then .ok allProjects
  else .error .typeError

def readProjects (answer : ApiAnswer) : Except PyError (List Json × Json) := do
  match answer with
  | .page _ page => return (← projectIds page, ← nextPageToken answer (text ""))
  | _ => throw (.exception "Connection closed")

def getAllAccessibleProjectsLoop :
    RequestLoop ProjectPaging QueryDict ApiAnswer (Except PyError (List Json)) where
  request := ProjectPaging.params
  step state answer :=
    match readProjects answer with
    | .error e => .inr (.error e)
    | .ok (ids, .str []) => .inr (loggedProjects (state.allProjects ++ ids))
    | .ok (ids, token) => .inl ⟨setPageToken state.params token, state.allProjects ++ ids⟩

structure DescriptorPaging where
  params : QueryDict
  projectDiscoveredMetrics : List GCPMetricDescriptor

def DescriptorPaging.start (activeOnly : Bool) : DescriptorPaging where
  params := if activeOnly then OrderedDict.empty.set "activeOnly".toList (text "true") else .empty
  projectDiscoveredMetrics := []

def descriptorResults (projectId : Text) (metrics : List GCPMetricDescriptor) :
    List FetchMetricDescriptorsResult :=
  metrics.map (fun descriptor => ⟨projectId, descriptor⟩)

def runFetchMetricDescriptorsLoop (selection : MetricSelection)
    (resourcesToAutodiscover : List Text) (projectId : Text) :
    RequestLoop DescriptorPaging QueryDict ListingResponse
      (List FetchMetricDescriptorsResult) where
  request := DescriptorPaging.params
  step state response :=
    match response with
    | .raised => .inr (descriptorResults projectId state.projectDiscoveredMetrics)
    | .page metricDescriptors token =>
      let discovered := state.projectDiscoveredMetrics ++
        metricDescriptors.filterMap (included selection resourcesToAutodiscover)
      if token = [] then .inr (descriptorResults projectId discovered)
      else .inl ⟨setPageToken state.params (.str token), discovered⟩

end GcpMonitor.Paging
