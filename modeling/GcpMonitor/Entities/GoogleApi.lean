import GcpMonitor.Entities.Extractors
import GcpMonitor.Library.ExceptList

namespace GcpMonitor.Entities

open Python Metrics ExceptList

inductive ApiAnswer where
  | networkError
  | undecodable (readable : Bool)
  | page (status : ℕ) (page : Json)

abbrev Mapper := Json → Except PyError (List Entity)

/-- What `generic_paging` does with an answer: it raises, returns the entities it has, returns them
with those of the page, or asks for one more page. -/
inductive PageRead where
  | raise (e : PyError)
  | stop
  | last (mapped : List Entity)
  | next (mapped : List Entity)

def readPage (mapper : Mapper) : ApiAnswer → PageRead
  | .networkError => .raise (.exception "Connection closed")
  | .undecodable readable => if readable then .stop else .raise (.exception "Connection closed")
  | .page status page =>
    if 400 ≤ status then .stop
    else
      match mapper page with
      | .error _ => .stop
      | .ok mapped =>
        match page.contains "nextPageToken" with
        | .error e => .raise e
        | .ok getPage => if getPage then .next mapped else .last mapped

def genericPaging (mapper : Mapper) : List Entity → List ApiAnswer → Except PyError (List Entity)
  | _, [] => throw (.exception "Connection closed")
  | entities, answer :: answers =>
    match readPage mapper answer with
    | .raise e => throw e
    | .stop => return entities
    | .last mapped => return entities ++ mapped
    | .next mapped => genericPaging mapper (entities ++ mapped) answers

def fetchZones : ApiAnswer → Except PyError (List Json)
  | .page status responseJson => do
    if 400 ≤ status then throw (.exception "ClientResponseError")
    if status ≠ 200 then throw (.exception "Failed to fetch available zones")
    (← (← responseJson.get "items" (.list [])).iter).mapM (fun zone => zone.item "name")
  | _ => throw (.exception "Connection closed")

/-- What the requests of one extractor are answered: that for the zones, which only GCE makes, and
those for the pages, by the place of the zone where there are zones. -/
structure ExtractorAnswers where
  zones : ApiAnswer
  pages : ℕ → List ApiAnswer

def extendAll (allResults : List Entity) :
    List (Except PyError (List Entity)) → Except PyError (List Entity)
  | [] => return allResults
  | .ok result :: results => extendAll (allResults ++ result) results
  | .error _ :: _ => throw .typeError

inductive Extractor where
  | cloudFunction
  | cloudSql
  | filestoreInstance
  | gceInstance
  | pubsubSubscription
  deriving DecidableEq

namespace Extractor

def all : List Extractor :=
  [cloudFunction, cloudSql, filestoreInstance, gceInstance, pubsubSubscription]

def serviceType : Extractor → String
  | cloudFunction => "cloud_function"
  | cloudSql => "cloudsql_database"
  | filestoreInstance => "filestore_instance"
  | gceInstance => "gce_instance"
  | pubsubSubscription => "pubsub_subscription"

def usedApi : Extractor → String
  | cloudFunction => "cloudfunctions.googleapis.com"
  | cloudSql => "sqladmin.googleapis.com"
  | filestoreInstance => "file.googleapis.com"
  | gceInstance => "compute.googleapis.com"
  | pubsubSubscription => "pubsub.googleapis.com"

def mapper (R : ExtractorRuntime) (svcDef : GCPService) : Extractor → Mapper
  | cloudFunction => CloudFunction.respToMonitoredEntities R svcDef
  | cloudSql => CloudSql.respToMonitoredEntities R svcDef
  | filestoreInstance => FilestoreInstance.respToMonitoredEntities R svcDef
  | gceInstance => GceInstance.respToMonitoredEntities R svcDef
  | pubsubSubscription => PubsubSubscription.respToMonitoredEntities R svcDef

variable (R : ExtractorRuntime) (svcDef : GCPService) (answers : ExtractorAnswers)

def extract : Extractor → Except PyError (List Entity)
  | gceInstance => do
    let zones ← fetchZones answers.zones
    extendAll [] (zones.zipIdx.map (fun zone =>
      genericPaging (mapper R svcDef gceInstance) [] (answers.pages zone.2)))
  | extractor => genericPaging (mapper R svcDef extractor) [] (answers.pages 0)

def getAndUpload (extractor : Extractor) : List Entity :=
  match extractor.extract R svcDef answers with
  | .ok entities => entities
  | .error _ => []

def itemsKey : Extractor → String
  | cloudFunction => "functions"
  | cloudSql => "items"
  | filestoreInstance => "instances"
  | gceInstance => "items"
  | pubsubSubscription => "subscriptions"

end Extractor

def entitiesExtractors (name : Text) : Option Extractor :=
  Extractor.all.find? (fun extractor => extractor.serviceType.toList = name)

/-- How one API call of an extractor ends: with an exception that leaves the request, with a
failure that is logged, or with a page that reports instances and what they are mapped to. -/
inductive CallOutcome where
  | raised
  | failed
  | reported (instances : ℕ) (mapped : List Entity)

namespace CallOutcome

def hasRaised : CallOutcome → Bool
  | .raised => true
  | _ => false

def succeeded : CallOutcome → Bool
  | .reported _ _ => true
  | _ => false

def instances : CallOutcome → ℕ
  | .reported instances _ => instances
  | _ => 0

def mapped : CallOutcome → List Entity
  | .reported _ mapped => mapped
  | _ => []

def entities : CallOutcome → Option (List Entity)
  | .raised => none
  | outcome => some outcome.mapped

end CallOutcome

def instancesIn (key : String) : ApiAnswer → ℕ
  | .page _ page => ((page.get key (.list [])).bind Json.iter).toOption.elim 0 List.length
  | _ => 0

def PageRead.outcome (instances : ℕ) : PageRead → CallOutcome
  | .raise _ => .raised
  | .stop => .failed
  | .last mapped => .reported instances mapped
  | .next mapped => .reported instances mapped

def pagingCalls (mapper : Mapper) (key : String) : List ApiAnswer → List CallOutcome
  | [] => [.raised]
  | answer :: answers =>
    (readPage mapper answer).outcome (instancesIn key answer) ::
      match readPage mapper answer with
      | .next _ => pagingCalls mapper key answers
      | _ => []

def Extractor.calls (R : ExtractorRuntime) (svcDef : GCPService) (answers : ExtractorAnswers) :
    Extractor → List CallOutcome
  | gceInstance =>
    match fetchZones answers.zones with
    | .error _ => [.raised]
    | .ok zones => .reported 0 [] :: zones.zipIdx.flatMap (fun zone =>
        pagingCalls (mapper R svcDef gceInstance) (itemsKey gceInstance) (answers.pages zone.2))
  | extractor =>
    pagingCalls (mapper R svcDef extractor) (itemsKey extractor) (answers.pages 0)

def collected : List CallOutcome → Option (List Entity)
  | [] => some []
  | call :: calls => Option.map₂ (fun xs ys => xs ++ ys) call.entities (collected calls)

theorem collected_append (calls calls' : List CallOutcome) :
    collected (calls ++ calls') =
      Option.map₂ (fun xs ys => xs ++ ys) (collected calls) (collected calls') := by
  induction calls with
  | nil => cases h : collected calls' <;> simp [collected, h]
  | cons call calls ih =>
    rw [List.cons_append, collected, ih, collected]
    exact (Option.map₂_assoc List.append_assoc).symm

theorem collected_eq_none_iff {calls : List CallOutcome} :
    collected calls = none ↔ ∃ call ∈ calls, call.hasRaised = true := by
  induction calls with
  | nil => simp [collected]
  | cons call calls ih =>
    rw [collected, Option.map₂_eq_none_iff, ih, List.exists_mem_cons_iff]
    cases call <;> simp [CallOutcome.entities, CallOutcome.hasRaised]

theorem collected_eq_some_nil_iff {calls : List CallOutcome} :
    collected calls = some [] ↔ ∀ call ∈ calls, call.entities = some [] := by
  induction calls with
  | nil => simp [collected]
  | cons call calls ih =>
    rw [collected, List.forall_mem_cons, ← ih, Option.map₂_eq_some_iff]
    constructor
    · rintro ⟨xs, ys, hxs, hys, happend⟩
      obtain ⟨rfl, rfl⟩ := List.append_eq_nil_iff.mp happend
      exact ⟨hxs, hys⟩
    · rintro ⟨hcall, hcalls⟩
      exact ⟨[], [], hcall, hcalls, rfl⟩

section

variable (mapper : Mapper) (key : String)

theorem genericPaging_toOption (entities : List Entity) (answers : List ApiAnswer) :
    (genericPaging mapper entities answers).toOption =
      (collected (pagingCalls mapper key answers)).map (fun xs => entities ++ xs) := by
  induction answers generalizing entities with
  | nil => rfl
  | cons answer answers ih =>
    rw [genericPaging, pagingCalls]
    cases readPage mapper answer with
    | raise e => rfl
    | stop => exact congrArg some (List.append_nil entities).symm
    | last mapped => exact congrArg (fun xs => some (entities ++ xs)) (List.append_nil mapped).symm
    | next mapped =>
      simp only [PageRead.outcome, collected, CallOutcome.entities, CallOutcome.mapped, ih]
      cases collected (pagingCalls mapper key answers) <;> simp

theorem extendAll_toOption (pages : ℕ → List ApiAnswer) (zones : List (Json × ℕ))
    (allResults : List Entity) :
    (extendAll allResults (zones.map (fun zone => genericPaging mapper [] (pages zone.2)))).toOption
      = (collected (zones.flatMap (fun zone => pagingCalls mapper key (pages zone.2)))).map
        (fun xs => allResults ++ xs) := by
  induction zones generalizing allResults with
  | nil => exact congrArg some (List.append_nil allResults).symm
  | cons zone zones ih =>
    have hpages := genericPaging_toOption mapper key [] (pages zone.2)
    rw [List.map_cons, List.flatMap_cons, collected_append]
    cases hresult : genericPaging mapper [] (pages zone.2) with
    | error e =>
      rw [hresult] at hpages
      cases hcollected : collected (pagingCalls mapper key (pages zone.2)) with
      | none => rfl
      | some entities =>
        rw [hcollected] at hpages
        cases hpages
    | ok result =>
      rw [hresult] at hpages
      cases hcollected : collected (pagingCalls mapper key (pages zone.2)) with
      | none =>
        rw [hcollected] at hpages
        cases hpages
      | some entities =>
        rw [hcollected] at hpages
        cases hpages
        rw [extendAll, ih]
        cases collected (zones.flatMap (fun zone => pagingCalls mapper key (pages zone.2))) <;> simp

end

section

variable (R : ExtractorRuntime) (svcDef : GCPService) (answers : ExtractorAnswers)

theorem extract_toOption (extractor : Extractor) :
    (extractor.extract R svcDef answers).toOption =
      collected (extractor.calls R svcDef answers) := by
  have hpaging : ∀ extractor : Extractor,
      (genericPaging (extractor.mapper R svcDef) [] (answers.pages 0)).toOption =
        collected (pagingCalls (extractor.mapper R svcDef) extractor.itemsKey
          (answers.pages 0)) := by
    intro extractor
    simpa using genericPaging_toOption (extractor.mapper R svcDef) extractor.itemsKey []
      (answers.pages 0)
  cases extractor with
  | gceInstance =>
    simp only [Extractor.extract, Extractor.calls]
    cases fetchZones answers.zones with
    | error e => rfl
    | ok zones =>
      simp only [bind, Except.bind, extendAll_toOption _ Extractor.gceInstance.itemsKey,
        List.nil_append, collected, CallOutcome.entities, CallOutcome.mapped]
      cases collected (zones.zipIdx.flatMap (fun zone => pagingCalls
        (Extractor.gceInstance.mapper R svcDef) Extractor.gceInstance.itemsKey
          (answers.pages zone.2))) <;> rfl
  | cloudFunction => exact hpaging .cloudFunction
  | cloudSql => exact hpaging .cloudSql
  | filestoreInstance => exact hpaging .filestoreInstance
  | pubsubSubscription => exact hpaging .pubsubSubscription

theorem getAndUpload_eq_nil_iff (extractor : Extractor) :
    extractor.getAndUpload R svcDef answers = [] ↔
      (∃ call ∈ extractor.calls R svcDef answers, call.hasRaised = true) ∨
        ∀ call ∈ extractor.calls R svcDef answers, call.entities = some [] := by
  rw [← collected_eq_none_iff, ← collected_eq_some_nil_iff, ← extract_toOption,
    Extractor.getAndUpload]
  cases extractor.extract R svcDef answers <;> simp [Except.toOption]

end

end GcpMonitor.Entities
