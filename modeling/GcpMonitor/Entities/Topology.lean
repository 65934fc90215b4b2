import GcpMonitor.Entities.GoogleApi
import GcpMonitor.Metrics.FetchMetric

namespace GcpMonitor.Entities

open Python Metrics

structure ServiceTask where
  service : MonitoredService
  answers : ExtractorAnswers

def ServiceTask.name (task : ServiceTask) : Text := task.service.base.name

def chosenExtractor (disabledApis : List Text) (task : ServiceTask) : Option Extractor :=
  (entitiesExtractors task.name).filter
    (fun extractor => !disabledApis.contains extractor.usedApi.toList)

/-- `fetch_topology`, whose dictionary has the service objects themselves as its keys: for each
service what stands under it, none when it is no key. -/
def fetchTopology (R : ExtractorRuntime) (services : List ServiceTask) (disabledApis : List Text) :
    List (Option (List Entity)) :=
  services.map (fun task => (chosenExtractor disabledApis task).map
    (fun extractor => extractor.getAndUpload R task.service.base task.answers))

end GcpMonitor.Entities
