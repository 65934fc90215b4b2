import GcpMonitor.Entities.Ids

namespace GcpMonitor.Entities

open Python Metrics

structure Entity where
  id : Text
  displayName : Json
  group : Text
  ipAddresses : List Json
  dtype : Text
  properties : List (Text × Json)

def text (s : String) : Json := .str s.toList

def mappingOf (functions : List (String × ExtractPropertyFunc)) : LabelToApiRspMapping :=
  functions.foldl (fun mapping entry => mapping.set entry.1.toList entry.2) .empty

/-- An `export_labels_regex`: every group stands behind a literal and takes as many characters as
it can, and only a line break may follow the suffix. -/
structure ExportLabelsRegex where
  groups : List (String × (Char → Bool))
  suffix : String

def matchGroups (suffix : Text) : List (String × (Char → Bool)) → Text → Option (List Text)
  | [], s => if s = suffix ∨ s = suffix ++ ['\n'] then some [] else none
  | (literal, matched) :: rest, s =>
    if literal.toList.isPrefixOf s then
      let s := s.drop literal.length
      (matchGroups suffix rest (s.dropWhile matched)).map
        (fun groups => s.takeWhile matched :: groups)
    else none

def ExportLabelsRegex.extractLabel (regex : ExportLabelsRegex) (message : String)
    (gfunName : Json) (groupIndex : ℕ) : Except PyError Json :=
  match gfunName with
  | .str name =>
    match matchGroups regex.suffix.toList regex.groups name with
    | none => throw (.valueError (some message.toList))
    | some groups =>
      (groups[groupIndex - 1]?).elim (.error .indexError) (fun group => .ok (.str group))
  | _ => throw .typeError

variable (R : ExtractorRuntime)

def wordOr (others : List Char) (c : Char) : Bool := R.word c || others.contains c

def mapItems (key : String) (toEntity : Json → Except PyError Entity) (page : Json) :
    Except PyError (List Entity) := do
  (← (← page.get key (.list [])).iter).mapM toEntity

namespace CloudFunction

def exportLabelsRegex : ExportLabelsRegex where
  groups := [("projects/", wordOr R [',', '-']), ("/locations/", wordOr R [',', '-']),
    ("/functions/", wordOr R [',', '-'])]
  suffix := ""

def extractLabel (gfunName : Json) (groupIndex : ℕ) : Except PyError Json :=
  (exportLabelsRegex R).extractLabel "Function name should adhere to expected schema" gfunName
    groupIndex

def labelToApiResponseMapping : LabelToApiRspMapping :=
  mappingOf [
    ("resource.labels.function_name", fun x => do extractLabel R (← x.get "name" (text "")) 3),
    ("resource.labels.project_id", fun x => do extractLabel R (← x.get "name" (text "")) 1),
    ("resource.labels.region", fun x => do extractLabel R (← x.get "name" (text "")) 2)]

def getProperties (rsp : Json) : Except PyError (List (Text × Json)) := do
  let state ← rsp.get "state" (text "N/A")
  let entryPoint ← (← rsp.get "buildConfig" (.map [])).get "entryPoint" (text "N/A")
  let availableMemory ← (← rsp.get "serviceConfig" (.map [])).get "availableMemory" (text "N/A")
  let runtime ← (← rsp.get "buildConfig" (.map [])).get "runtime" (text "")
  let ingressSettings ← (← rsp.get "serviceConfig" (.map [])).get "ingressSettings" (text "")
  return [("Status".toList, state), ("Entry point".toList, entryPoint),
    ("Available memory".toList, availableMemory), ("Runtime".toList, runtime),
    ("Ingress settings".toList, ingressSettings)]

def toEntity (svcDef : GCPService) (cd : Json) : Except PyError Entity := do
  let id ← getFuncCreateEntityId R (labelToApiResponseMapping R) cd svcDef
  let displayName ← extractLabel R (← cd.get "name" (text "")) 3
  let properties ← getProperties cd
  return ⟨id, displayName, svcDef.technologyName, [], svcDef.technologyName, properties⟩

def respToMonitoredEntities (svcDef : GCPService) : Json → Except PyError (List Entity) :=
  mapItems "functions" (toEntity R svcDef)

end CloudFunction

namespace CloudSql

def labelToApiResponseMapping : LabelToApiRspMapping :=
  mappingOf [
    ("resource.labels.project_id", fun x => do return .str (R.str (← x.item "project"))),
    ("resource.labels.region", fun x => do return .str (R.str (← x.item "region"))),
    ("resource.labels.database_id", fun x => do
      return .str (R.str (← x.item "project") ++ ':' :: R.str (← x.item "name")))]

def getProperties (rsp : Json) : Except PyError (List (Text × Json)) := do
  let project ← rsp.get "project" (text "N/A")
  let connectionName ← rsp.get "connectionName" (text "N/A")
  let region ← rsp.get "region" (text "N/A")
  let tier ← (← rsp.get "settings" (.map [])).get "tier" (text "N/A")
  return [("Project".toList, project), ("Connection Name".toList, connectionName),
    ("Region".toList, region), ("Pricing Tier".toList, tier)]

def toEntity (svcDef : GCPService) (cd : Json) : Except PyError Entity := do
  let id ← getFuncCreateEntityId R (labelToApiResponseMapping R) cd svcDef
  let displayName ← cd.get "name" (text "N/A")
  let ipAddresses ←
    (← (← cd.get "ipAddresses" (.list [])).iter).mapM (fun x => x.item "ipAddress")
  let properties ← getProperties cd
  return ⟨id, displayName, svcDef.technologyName, ipAddresses, svcDef.technologyName, properties⟩

def respToMonitoredEntities (svcDef : GCPService) : Json → Except PyError (List Entity) :=
  mapItems "items" (toEntity R svcDef)

end CloudSql

namespace FilestoreInstance

def exportLabelsRegex : ExportLabelsRegex where
  groups := [("projects/", wordOr R [',', '-']), ("/locations/", wordOr R [',', '-']),
    ("/instances/", wordOr R [',', '-'])]
  suffix := ""

def extractLabel (gfunName : Json) (groupIndex : ℕ) : Except PyError Json :=
  (exportLabelsRegex R).extractLabel "Filestore instance name should adhere to expected schema"
    gfunName groupIndex

def labelToApiResponseMapping : LabelToApiRspMapping :=
  mappingOf [
    ("resource.labels.project_id", fun x => do extractLabel R (← x.get "name" (text "")) 1),
    ("resource.labels.location", fun x => do extractLabel R (← x.get "name" (text "")) 2),
    ("resource.labels.instance_name", fun x => do extractLabel R (← x.get "name" (text "")) 3)]

def getProperties (rsp : Json) : Except PyError (List (Text × Json)) := do
  let state ← rsp.get "state" (text "N/A")
  let tier ← rsp.get "tier" (text "N/A")
  return [("State".toList, state), ("Tier".toList, tier)]

def toEntity (svcDef : GCPService) (cd : Json) : Except PyError Entity := do
  let id ← getFuncCreateEntityId R (labelToApiResponseMapping R) cd svcDef
  let displayName ← extractLabel R (← cd.get "name" (text "")) 3
  let ipAddresses ←
    (← (← cd.get "networks" (.list [])).iter).mapM (fun x => x.get "ipAddresses" (.list []))
  let properties ← getProperties cd
  return ⟨id, displayName, svcDef.technologyName, ipAddresses, svcDef.technologyName, properties⟩

def respToMonitoredEntities (svcDef : GCPService) : Json → Except PyError (List Entity) :=
  mapItems "instances" (toEntity R svcDef)

end FilestoreInstance

namespace PubsubSubscription

def exportLabelsRegex : ExportLabelsRegex where
  groups := [("projects/", wordOr R [',', '-']), ("/subscriptions/", wordOr R [',', '-', '.'])]
  suffix := ""

def extractLabel (gfunName : Json) (groupIndex : ℕ) : Except PyError Json :=
  (exportLabelsRegex R).extractLabel "Pubsub name should adhere to expected schema" gfunName
    groupIndex

def labelToApiResponseMapping : LabelToApiRspMapping :=
  mappingOf [
    ("resource.labels.subscription_id", fun x => do extractLabel R (← x.get "name" (text "")) 2),
    ("resource.labels.project_id", fun x => do extractLabel R (← x.get "name" (text "")) 1)]

def getProperties (rsp : Json) : Except PyError (List (Text × Json)) := do
  let topic ← rsp.get "topic" (text "N/A")
  let ackDeadlineSeconds ← rsp.get "ackDeadlineSeconds" (text "N/A")
  return [("Topic".toList, topic), ("Ack Deadline Seconds".toList, ackDeadlineSeconds)]

def toEntity (svcDef : GCPService) (cd : Json) : Except PyError Entity := do
  let id ← getFuncCreateEntityId R (labelToApiResponseMapping R) cd svcDef
  let displayName ← extractLabel R (← cd.get "name" (text "")) 2
  let properties ← getProperties cd
  return ⟨id, displayName, svcDef.technologyName, [], svcDef.technologyName, properties⟩

def respToMonitoredEntities (svcDef : GCPService) : Json → Except PyError (List Entity) :=
  mapItems "subscriptions" (toEntity R svcDef)

end PubsubSubscription

namespace GceInstance

def exportLabelsRegex : ExportLabelsRegex where
  groups := [("projects/", wordOr R [',', '-']), ("/zones/", wordOr R [',', '-', '.'])]
  suffix := "/instances"

def extractLabel (gfunName : Json) (groupIndex : ℕ) : Except PyError Json :=
  (exportLabelsRegex R).extractLabel "Pubsub name should adhere to expected schema" gfunName
    groupIndex

def labelToApiResponseMapping : LabelToApiRspMapping :=
  mappingOf [
    ("resource.labels.instance_id", fun x => do extractLabel R (← x.get "name" (text "")) 2),
    ("resource.labels.zone_id", fun x => do extractLabel R (← x.get "name" (text "")) 2),
    ("resource.labels.project_id", fun x => do extractLabel R (← x.get "name" (text "")) 1)]

def mappings (projectId zoneId : Json) : LabelToApiRspMapping :=
  mappingOf [
    ("resource.labels.instance_id", fun x => x.get "id" (text "")),
    ("resource.labels.zone", fun _ => return zoneId),
    ("resource.labels.project_id", fun _ => return projectId)]

def lastSegment : Json → Except PyError Json
  | .str s => .ok (.str (s.rtakeWhile (fun c => c ≠ '/')))
  | _ => .error .attributeError

def getProperties (rsp : Json) : Except PyError (List (Text × Json)) := do
  let machineType ← lastSegment (← rsp.get "machineType" (text "/"))
  let labels ← (← rsp.get "labels" (.map [])).items
  let status ← rsp.get "status" (text "N/A")
  let cpuPlatform ← rsp.get "cpuPlatform" (text "N/A")
  return labels ++ [("Status".toList, status), ("Cpu Platform".toList, cpuPlatform),
    ("Machine Type".toList, machineType)]

def toEntity (svcDef : GCPService) (projectId zoneId cd : Json) : Except PyError Entity := do
  let ips ← (← (← cd.get "networkInterfaces" (.list [])).iter).mapM
    (fun interface => interface.get "networkIP" (text ""))
  let _tags ← (← cd.get "tags" (.map [])).get "items" (.list [])
  let id ← getFuncCreateEntityId R (mappings projectId zoneId) cd svcDef
  let displayName ← cd.get "name" (text "")
  let properties ← getProperties cd
  return ⟨id, displayName, svcDef.technologyName, ips, svcDef.technologyName, properties⟩

def respToMonitoredEntities (svcDef : GCPService) (page : Json) :
    Except PyError (List Entity) := do
  let items ← page.get "items" (.list [])
  if items.truthy then
    match ← page.get "id" .null with
    | .null => return []
    | pageId =>
      let projectId ← extractLabel R pageId 1
      let zoneId ← extractLabel R pageId 2
      (← items.iter).mapM (toEntity R svcDef projectId zoneId)
  else return []

end GceInstance

end GcpMonitor.Entities
