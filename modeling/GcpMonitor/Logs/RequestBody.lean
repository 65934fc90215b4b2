import GcpMonitor.Logs.KeptValues
import GcpMonitor.Logs.MessageDelivery

namespace GcpMonitor.Logs

open Python Json TransitionSystem TaskPool

section Body

variable {AckId : Type} {env : LogRuntime} {settings : LogSettings} {engine : MetadataEngine}
  {float : Text → PyFloat} {limits : RequestLimits}

def LogBatch.ReadsAs (batch : LogBatch AckId) (env : LogRuntime) (settings : LogSettings)
    (engine : MetadataEngine) (float : Text → PyFloat) (arrived : Delivery AckId → ArrivedMessage)
    (deliveries : List (Delivery AckId)) : Prop :=
  ∃ payloads, List.Forall₂ (fun d payload => PayloadOf env settings engine (arrived d) payload)
      deliveries payloads ∧
    Json.loads float batch.serializedBatch.toList =
      some (.list (payloads.map (fun payload => .map payload.entries)))

theorem serialize_toList (group : List (LogProcessingJob AckId)) :
    (serialize group).toList =
      '[' :: [','].intercalate (group.map (fun job => job.payload.toList)) ++ [']'] := by
  simp [serialize, String.toList_intercalate, Function.comp_def]

theorem processed_of_acceptedJob {d : Delivery AckId} {job : LogProcessingJob AckId}
    (h : acceptedJob limits Arrival.processed d = some job) :
    ∃ sfm, d.message.processed = .payload job.payload sfm := by
  obtain ⟨hjob, -⟩ := Option.filter_eq_some_iff.mp h
  rw [messageJob] at hjob
  split at hjob
  · rename_i payload sfm hprocessed
    cases hjob
    exact ⟨sfm, hprocessed⟩
  · contradiction
  · contradiction
  · contradiction

theorem deliveries_of_group {deliveries : List (Delivery AckId)}
    {group : List (LogProcessingJob AckId)}
    (h : group ⊆ deliveries.filterMap (acceptedJob limits Arrival.processed)) :
    ∃ ds, ds ⊆ deliveries ∧
      List.Forall₂ (fun d job => acceptedJob limits Arrival.processed d = some job) ds group := by
  induction group with
  | nil => exact ⟨[], List.nil_subset _, .nil⟩
  | cons job group ih =>
    obtain ⟨hjob, hgroup⟩ := List.cons_subset.mp h
    obtain ⟨ds, hds, haccepted⟩ := ih hgroup
    obtain ⟨d, hd, hfirst⟩ := List.mem_filterMap.mp hjob
    exact ⟨d :: ds, List.cons_subset.mpr ⟨hd, hds⟩, .cons hfirst haccepted⟩

variable {arrived : Delivery AckId → ArrivedMessage}

def ProcessedAs (env : LogRuntime) (settings : LogSettings) (engine : MetadataEngine)
    (float : Text → PyFloat) (arrived : Delivery AckId → ArrivedMessage)
    (deliveries : List (Delivery AckId)) : Prop :=
  ∀ d ∈ deliveries, (arrived d).message.Kept env.pyRepr float ∧
    d.message.processed = processMessage env settings engine (arrived d)

theorem payloads_of_group (hvalues : PythonValues env engine float)
    {ds : List (Delivery AckId)} {group : List (LogProcessingJob AckId)}
    (hds : ProcessedAs env settings engine float arrived ds)
    (h : List.Forall₂ (fun d job => acceptedJob limits Arrival.processed d = some job) ds group) :
    ∃ payloads, List.Forall₂ (fun d payload => PayloadOf env settings engine (arrived d) payload)
        ds payloads ∧
      KeptItems env.pyRepr float (payloads.map (fun payload => .map payload.entries)) ∧
      group.map (fun job => job.payload.toList) =
        dumpsItems env.pyRepr (payloads.map (fun payload => .map payload.entries)) := by
  induction h with
  | nil => exact ⟨[], .nil, trivial, rfl⟩
  | @cons d job ds group haccepted _ ih =>
    obtain ⟨⟨hmessage, hprocessed⟩, hrest⟩ := List.forall_mem_cons.mp hds
    obtain ⟨payloads, hpayloads, hkept, hgroup⟩ := ih hrest
    obtain ⟨sfm, hjob⟩ := processed_of_acceptedJob haccepted
    rw [hprocessed] at hjob
    obtain ⟨payload, hpayload, htext⟩ := payloadOf_of_processMessage hjob
    refine ⟨payload :: payloads, .cons hpayload hpayloads,
      ⟨hvalues.payloadOf hmessage hpayload, hkept⟩, ?_⟩
    rw [List.map_cons, List.map_cons, dumpsItems, hgroup, htext, String.toList_ofList]

theorem ackIds_of_group {ds : List (Delivery AckId)} {group : List (LogProcessingJob AckId)}
    (h : List.Forall₂ (fun d job => acceptedJob limits Arrival.processed d = some job) ds group) :
    group.map (fun job => job.ackId) = ds.map (fun d => d.ackId) := by
  induction h with
  | nil => rfl
  | cons haccepted _ ih => rw [List.map_cons, List.map_cons, ih, acceptedJob_ackId haccepted]

theorem readsAs_of_group (hvalues : PythonValues env engine float) {batch : LogBatch AckId}
    {ds : List (Delivery AckId)} {group : List (LogProcessingJob AckId)}
    (hholds : batch.Holds group)
    (hds : ProcessedAs env settings engine float arrived ds)
    (h : List.Forall₂ (fun d job => acceptedJob limits Arrival.processed d = some job) ds group) :
    batch.ReadsAs env settings engine float arrived ds := by
  obtain ⟨payloads, hpayloads, hkept, hgroup⟩ := payloads_of_group hvalues hds h
  refine ⟨payloads, hpayloads, ?_⟩
  rw [hholds.1, serialize_toList, hgroup]
  exact loads_joined (by simp) hkept

variable [DecidableEq AckId] {compressedLength : String → ℕ} {workers : ℕ}
  {s : DeliveryState AckId}

def DeliveryEvent.given : DeliveryEvent AckId → List (Delivery AckId)
  | .pull _ p => p.deliveries
  | _ => []

theorem DeliveryState.step_deliveries {t : DeliveryState AckId} {event : DeliveryEvent AckId}
    (h : s.step limits compressedLength event = some t) :
    t.deliveries ⊆ s.deliveries ++ event.given := by
  cases event with
  | publish =>
    cases h
    exact List.subset_append_left _ _
  | pull w p =>
    obtain ⟨old, -, -, rfl⟩ := onTask_eq_some.mp h
    exact List.Subset.refl _
  | push w event =>
    rw [DeliveryState.step] at h
    split at h
    · obtain ⟨next, -, rfl⟩ := Option.map_eq_some_iff.mp h
      exact List.subset_append_left _ _
    · contradiction
  | acknowledge w sendingTimeEnd =>
    rw [DeliveryState.step] at h
    split at h
    · obtain ⟨-, ht⟩ := Option.ite_none_right_eq_some.mp h
      cases ht
      exact List.subset_append_left _ _
    · contradiction
  | carryOut k =>
    obtain ⟨ackIds, -, rfl⟩ := Option.map_eq_some_iff.mp h
    exact List.subset_append_left _ _
  | answered w =>
    obtain ⟨old, -, -, rfl⟩ := onTask_eq_some.mp h
    exact List.subset_append_left _ _
  | restart w =>
    obtain ⟨old, -, -, rfl⟩ := onTask_eq_some.mp h
    exact List.subset_append_left _ _

theorem deliveries_of_run {trace : List (DeliveryEvent AckId)}
    (h : (deliverySystem limits compressedLength workers).run trace = some s) :
    s.deliveries ⊆ trace.flatMap DeliveryEvent.given := by
  induction trace using List.reverseRecOn generalizing s with
  | nil =>
    cases h
    exact List.nil_subset _
  | append_singleton trace event ih =>
    obtain ⟨before, hbefore, hstep⟩ := System.run_snoc_some _ h
    rw [List.flatMap_append, List.flatMap_singleton]
    refine List.Subset.trans (DeliveryState.step_deliveries hstep) ?_
    exact List.append_subset.mpr ⟨List.subset_append_of_subset_left _ (ih hbefore),
      List.subset_append_right _ _⟩

/-- Of every run: each body that Dynatrace has accepted reads as a list with one element for each
of the messages it was made of, which is the payload of that message; and a message that has left
the subscription has been rejected or is one of those. -/
theorem accepted_bodies_read (hvalues : PythonValues env engine float)
    (h : (deliverySystem limits compressedLength workers).Reachable s)
    (hprocessed : ProcessedAs env settings engine float arrived s.deliveries) :
    (∀ batch ∈ s.received, ∃ ds, ds ⊆ s.deliveries ∧ batch.ackIds = ds.map (fun d => d.ackId) ∧
      batch.ReadsAs env settings engine float arrived ds) ∧
    ∀ n ∈ s.acknowledged, ∃ d ∈ s.deliveries, d.message.number = n ∧
      (rejected limits Arrival.processed d = true ∨ ∃ batch ∈ s.received, ∃ ds, d ∈ ds ∧
        ds ⊆ s.deliveries ∧ batch.ReadsAs env settings engine float arrived ds) := by
  have hv := DeliveryState.valid_of_reachable h
  have hbatches : ∀ batch ∈ s.received, ∃ ds, ds ⊆ s.deliveries ∧
      batch.ackIds = ds.map (fun d => d.ackId) ∧
        batch.ReadsAs env settings engine float arrived ds := by
    intro batch hbatch
    obtain ⟨group, hholds, hsub⟩ := hv.received batch hbatch
    obtain ⟨ds, hds, haccepted⟩ := deliveries_of_group hsub
    exact ⟨ds, hds, hholds.2.trans (ackIds_of_group haccepted),
      readsAs_of_group hvalues hholds (fun d hd => hprocessed d (hds hd)) haccepted⟩
  refine ⟨hbatches, ?_⟩
  intro n hn
  obtain ⟨d, hd, hnumber, hdealt⟩ := hv.acknowledged n hn
  refine ⟨d, hd, hnumber, ?_⟩
  obtain hrejected | ⟨job, haccepted, batch, hbatch, group, hholds, hjob⟩ := hdealt
  · exact .inl hrejected
  · obtain ⟨ds, hds, hackIds, hreads⟩ := hbatches batch hbatch
    refine .inr ⟨batch, hbatch, ds, ?_, hds, hreads⟩
    have hmem : d.ackId ∈ ds.map (fun d => d.ackId) := by
      rw [← hackIds, hholds.2, ← acceptedJob_ackId haccepted]
      exact List.mem_map_of_mem hjob
    obtain ⟨d', hd', heq⟩ := List.mem_map.mp hmem
    -- the ack id tells which message was given out
    have hsame : d' = d := List.inj_on_of_nodup_map hv.fresh (hds hd') hd heq
    exact hsame ▸ hd'

end Body

def okMessage : Text := "\x7b\"content\": \"ok\", \"severity\": [1, true]\x7d".toList

def zeroFloat : Text → PyFloat := fun _ => .finite 0

def okRuntime : LogRuntime :=
  { runtimeFor okMessage (.error (.valueError none)) ['o', 'k'] publishedAt 1704067200 with
    loads := fun text => (Json.loads zeroFloat text).elim (.error (.valueError none)) .ok }

def okProcessed : Processed :=
  processMessage okRuntime defaultSettings defaultEngine (arrivedFor ['o', 'k'])

def okPull : Pull ℕ where
  responses := [.received [⟨7, ⟨0, okProcessed⟩⟩]]
  outcomes := fun _ => .response 204
  pullTimes := ⟨0, 1, 1, 2⟩
  sfmQueue := { maxsize := 0 }
  permits := 1
  sendingTimeStart := 2

def okTrace : List (DeliveryEvent ℕ) :=
  [.publish, .pull 0 okPull, .push 0 (.start 0), .push 0 (.respond 0), .push 0 (.report 0),
    .acknowledge 0 3, .carryOut 0, .answered 0]

theorem okTrace_given :
    okTrace.flatMap DeliveryEvent.given = [(⟨7, ⟨0, okProcessed⟩⟩ : Delivery ℕ)] := by
  simp [okTrace, DeliveryEvent.given, okPull, Pull.deliveries, PullResponse.messages]

theorem okMessage_kept : (arrivedFor ['o', 'k']).message.Kept okRuntime.pyRepr zeroFloat := by
  refine ⟨?_, kept_str _, kept_str _, trivial⟩
  simp

theorem zeroFloat_kept (q : ℚ) (h : .finite 0 = PyFloat.finite q) :
    FloatKept okRuntime.pyRepr zeroFloat q := by
  cases h
  refine ⟨⟨[], ['0'], ['.', '0'], [], rfl, ?_⟩, rfl⟩
  exact ⟨.inl rfl, .zero, .inr ⟨['0'], rfl, by simp, by simp⟩, .inl rfl, .inl (by simp)⟩

theorem okRuntime_values : PythonValues okRuntime defaultEngine zeroFloat where
  floats := fun text q _ h => zeroFloat_kept q h
  loads := by
    intro text value h
    have h : (Json.loads zeroFloat text).elim (Except.error (PyError.valueError none)) .ok =
        Except.ok value := h
    cases hloads : Json.loads zeroFloat text with
    | none =>
      rw [hloads] at h
      cases h
    | some found =>
      rw [hloads] at h
      cases h
      rfl
  search := by
    intro pattern record value hrecord h
    change searchContent pattern record = .ok value at h
    rw [searchContent] at h
    split_ifs at h
    · cases h
      exact hrecord
    · cases h
      rw [contentOrWhole]
      cases hcontent : ownContent record with
      | none => exact hrecord
      | some content =>
        dsimp only
        split_ifs
        · exact hrecord
        · cases record with
          | map entries => exact kept_lookup hrecord.2 hcontent
          | _ => cases hcontent
  securityContext := kept_null

theorem accepted_bodies_read_one : ∃ s,
    (deliverySystem ⟨1000, 10⟩ (fun _ => 110) 1).run okTrace = some s ∧
    s.acknowledged = [0] ∧ ∀ batch ∈ s.received, ∃ ds, ds ⊆ s.deliveries ∧
      batch.ackIds = ds.map (fun d => d.ackId) ∧
      batch.ReadsAs okRuntime defaultSettings defaultEngine zeroFloat
        (fun _ => arrivedFor ['o', 'k']) ds := by
  have hrun : ((deliverySystem ⟨1000, 10⟩ (fun _ => 110) 1).run okTrace).map
      (fun s => s.acknowledged) = some [0] := by
    decide +kernel
  obtain ⟨s, hs, hacknowledged⟩ := Option.map_eq_some_iff.mp hrun
  have hprocessed : ProcessedAs okRuntime defaultSettings defaultEngine zeroFloat
      (fun _ => arrivedFor ['o', 'k']) s.deliveries := by
    intro d hd
    have hmem := deliveries_of_run hs hd
    rw [okTrace_given, List.mem_singleton] at hmem
    rw [hmem]
    refine ⟨okMessage_kept, ?_⟩
    rw [okProcessed]
  exact ⟨s, hs, hacknowledged,
    (accepted_bodies_read okRuntime_values ⟨okTrace, hs⟩ hprocessed).1⟩

end GcpMonitor.Logs
