import Mathlib.Algebra.Field.Rat
import Mathlib.Algebra.BigOperators.Group.List.Basic

namespace GcpMonitor.Logs

inductive DynatraceConnectivity where
  | ok
  | expiredToken
  | wrongToken
  | wrongURL
  | invalidInput
  | tooManyRequests
  | other
  deriving DecidableEq, Repr

/-- Durations and sizes in kB are floats in the source; here they are exact rationals. -/
structure LogSelfMonitoring where
  tooOldRecords : ℕ := 0
  publishTimeFallbackRecords : ℕ := 0
  parsingErrors : ℕ := 0
  recordsWithTooLongContent : ℕ := 0
  allRequests : ℕ := 0
  dynatraceConnectivity : List DynatraceConnectivity := []
  processingTimeStart : ℚ := 0
  processingTime : ℚ := 0
  pullingTimeStart : ℚ := 0
  pullingTime : ℚ := 0
  sendingTimeStart : ℚ := 0
  sendingTime : ℚ := 0
  logIngestPayloadSize : ℚ := 0
  logIngestRawSize : ℚ := 0
  sentLogsEntries : ℕ := 0
  deriving DecidableEq

namespace LogSelfMonitoring

def calculateProcessingTime (sfm : LogSelfMonitoring) (now : ℚ) : LogSelfMonitoring :=
  { sfm with processingTime := now - sfm.processingTimeStart }

def calculateSendingTime (sfm : LogSelfMonitoring) (now : ℚ) : LogSelfMonitoring :=
  { sfm with sendingTime := now - sfm.sendingTimeStart }

def calculatePullingTime (sfm : LogSelfMonitoring) (now : ℚ) : LogSelfMonitoring :=
  { sfm with pullingTime := now - sfm.pullingTimeStart }

def addTo (aggregated sfm : LogSelfMonitoring) : LogSelfMonitoring :=
  { aggregated with
    allRequests := aggregated.allRequests + sfm.allRequests
    tooOldRecords := aggregated.tooOldRecords + sfm.tooOldRecords
    publishTimeFallbackRecords :=
      aggregated.publishTimeFallbackRecords + sfm.publishTimeFallbackRecords
    parsingErrors := aggregated.parsingErrors + sfm.parsingErrors
    recordsWithTooLongContent :=
      aggregated.recordsWithTooLongContent + sfm.recordsWithTooLongContent
    dynatraceConnectivity := aggregated.dynatraceConnectivity ++ sfm.dynatraceConnectivity
    processingTime := aggregated.processingTime + sfm.processingTime
    pullingTime := aggregated.pullingTime + sfm.pullingTime
    sendingTime := aggregated.sendingTime + sfm.sendingTime
    logIngestPayloadSize := aggregated.logIngestPayloadSize + sfm.logIngestPayloadSize
    logIngestRawSize := aggregated.logIngestRawSize + sfm.logIngestRawSize
    sentLogsEntries := aggregated.sentLogsEntries + sfm.sentLogsEntries }

end LogSelfMonitoring

def aggregateSelfMonitoringMetrics (aggregated : LogSelfMonitoring)
    (sfmList : List LogSelfMonitoring) : LogSelfMonitoring :=
  sfmList.foldl LogSelfMonitoring.addTo aggregated

/-- An `asyncio.Queue` seen from the producers: all that was ever put, and how many of these the
self-monitoring loop has taken out again. A `maxsize` of 0 means no bound. -/
structure SfmQueue where
  maxsize : ℕ
  put : List LogSelfMonitoring := []
  taken : ℕ := 0

namespace SfmQueue

def isFull (q : SfmQueue) : Bool :=
  decide (0 < q.maxsize ∧ q.maxsize ≤ q.put.length - q.taken)

def push (q : SfmQueue) (sfm : LogSelfMonitoring) : SfmQueue := { q with put := q.put ++ [sfm] }

end SfmQueue

/-- `put_nowait` on a full queue raises, and the exception is swallowed. -/
def putSfmIntoQueue (q : SfmQueue) (sfm : LogSelfMonitoring) : SfmQueue :=
  if q.isFull then q else q.push sfm

end GcpMonitor.Logs
