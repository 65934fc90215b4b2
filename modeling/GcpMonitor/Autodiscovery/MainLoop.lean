import GcpMonitor.Autodiscovery.TaskExecutor

namespace GcpMonitor.Autodiscovery

open TransitionSystem

variable {Service : Type}

namespace ExecutorEvent

def ofLoop : ExecutorEvent Service → Bool
  | .addObserver _ => false
  | .process _ _ => false
  | .update _ => false
  | .read _ => false
  | _ => true

def startsRun : ExecutorEvent Service → Bool
  | .start => true
  | .discoveryTimeout => true
  | .waitTimeout => true
  | .clear => true
  | _ => false

end ExecutorEvent

/-- Where `run_metrics_fetcher_forever` is: in `AutodiscoveryTaskExecutor.create`, before a call of
`process_autodiscovery_result`, in its `k`-th call, or between a call and the refreshed pair. -/
inductive MainPhase where
  | creating
  | ready
  | processing (k : ℕ)
  | polling

structure MainLoop (Service : Type) where
  executor : TaskExecutor Service
  baseServices : List Service
  extensionVersions : OrderedDict Text Text
  phase : MainPhase
  processed : Option (List Service)

inductive MainEvent (Service : Type) where
  | autodiscovery (e : ExecutorEvent Service)
  | created
  | process
  | update
  | read
  | refreshed (services : List Service) (extensionVersions : OrderedDict Text Text)

namespace MainLoop

variable (hash : List (Text × Text) → ℤ)

def init (services : List Service) (extensionVersions : OrderedDict Text Text) :
    MainLoop Service where
  executor := .init hash services extensionVersions [0]
  baseServices := services
  extensionVersions := extensionVersions
  phase := .creating
  processed := none

def startCall (s : MainLoop Service) (executor : TaskExecutor Service) : MainLoop Service :=
  if s.executor.isTaskRunning then
    { s with
      executor, phase := .processing s.executor.calls.length, processed := none }
  else { s with executor, phase := .polling, processed := some s.baseServices }

def step (s : MainLoop Service) (e : MainEvent Service) : Option (MainLoop Service) :=
  match e, s.phase with
  | .autodiscovery e, _ =>
    if e.ofLoop then
      (s.executor.step hash e).map (fun executor => { s with executor })
    else none
  | .created, .creating =>
    if s.executor.notified ≠ [] then some { s with phase := .ready } else none
  | .process, .ready =>
    (s.executor.step hash (.process s.baseServices s.extensionVersions)).map s.startCall
  | .update, .processing k =>
    (s.executor.step hash (.update k)).map (fun executor => { s with executor })
  | .read, .processing k =>
    (s.executor.step hash (.read k)).map (fun executor =>
      { s with executor, phase := .polling, processed := some s.baseServices })
  | .refreshed services extensionVersions, .polling =>
    some { s with baseServices := services, extensionVersions, phase := .ready }
  | _, _ => none

end MainLoop

def mainSystem (hash : List (Text × Text) → ℤ) (services : List Service)
    (extensionVersions : OrderedDict Text Text) :
    System (MainLoop Service) (MainEvent Service) where
  init := .init hash services extensionVersions
  step := MainLoop.step hash

/-- The services of the last call whose extension versions have another hash than those before, and
that hash. -/
def lastChange (hash : List (Text × Text) → ℤ) (start : List Service × ℤ)
    (calls : List (ProcessCall Service)) : List Service × ℤ :=
  calls.foldl (fun stored call =>
    if hash (sortedItems call.newExtensionVersions) ≠ stored.2 then
      (call.services, hash (sortedItems call.newExtensionVersions))
    else stored) start

def MainEvent.startsRun : MainEvent Service → Bool
  | .autodiscovery e => e.startsRun
  | _ => false

def GivenCurrent (hash : List (Text × Text) → ℤ) (s : MainLoop Service) (e : MainEvent Service) :
    Prop :=
  ∀ t services run, s.step hash e = some t → s.processed = some services →
    t.executor.runs = s.executor.runs ++ [run] → run = services

def KeptSinceChange (hash : List (Text × Text) → ℤ) (start : List Service × ℤ)
    (s : MainLoop Service) (e : MainEvent Service) : Prop :=
  ∀ t services, s.step hash e = some t → s.processed = some services → e.startsRun = true →
    services = (lastChange hash start s.executor.calls).1

section

variable {hash : List (Text × Text) → ℤ}

theorem lastChange_snoc (start : List Service × ℤ) (calls : List (ProcessCall Service))
    (call : ProcessCall Service) :
    lastChange hash start (calls ++ [call]) =
      if hash (sortedItems call.newExtensionVersions) ≠ (lastChange hash start calls).2 then
        (call.services, hash (sortedItems call.newExtensionVersions))
      else lastChange hash start calls := by
  rw [lastChange, List.foldl_append]
  rfl

structure LoopKeeps (s : TaskExecutor Service) (e : ExecutorEvent Service)
    (t : TaskExecutor Service) : Prop where
  running : s.loop ≠ .stopped
  cachedServices : t.cachedServices = s.cachedServices
  versionsHash : t.autodiscoveredExtensionVersionsHash = s.autodiscoveredExtensionVersionsHash
  calls : t.calls = s.calls
  isTaskRunning : t.loop = .stopped ∨ t.isTaskRunning = s.isTaskRunning
  runs : t.runs = s.runs ++ if e.startsRun then [s.cachedServices] else []

theorem loopKeeps_of_step {s t : TaskExecutor Service} {e : ExecutorEvent Service}
    (he : e.ofLoop = true) (h : s.step hash e = some t) : LoopKeeps s e t := by
  unfold TaskExecutor.step at h
  split at h
  · next hloop =>
    cases h
    exact ⟨by simp [hloop], rfl, rfl, rfl, .inr rfl, rfl⟩
  · next hloop =>
    cases h
    exact ⟨by simp [hloop], rfl, rfl, rfl, .inr rfl, (List.append_nil _).symm⟩
  · next hloop =>
    cases h
    exact ⟨by simp [hloop], rfl, rfl, rfl, .inr rfl, rfl⟩
  · next hloop =>
    cases h
    exact ⟨by simp [hloop], rfl, rfl, rfl, .inl rfl, (List.append_nil _).symm⟩
  · next hloop =>
    cases h
    exact ⟨by simp [hloop], rfl, rfl, rfl, .inr rfl, (List.append_nil _).symm⟩
  · next hloop =>
    obtain ⟨-, h⟩ := Option.ite_none_right_eq_some.mp h
    cases h
    exact ⟨by simp [hloop], rfl, rfl, rfl, .inr rfl, (List.append_nil _).symm⟩
  · next hloop =>
    cases h
    exact ⟨by simp [hloop], rfl, rfl, rfl, .inr rfl, rfl⟩
  · next hloop =>
    cases h
    exact ⟨by simp [hloop], rfl, rfl, rfl, .inr rfl, rfl⟩
  · cases he
  · cases he
  · cases he
  · cases he
  · cases h

def MainLoop.stored (s : MainLoop Service) : List Service × ℤ :=
  (s.executor.cachedServices, s.executor.autodiscoveredExtensionVersionsHash)

/-- As long as discovery runs, the executor holds what the calls so far have stored; a call that is
still to store its services is not counted yet. -/
inductive Settled (hash : List (Text × Text) → ℤ) (start : List Service × ℤ)
    (s : MainLoop Service) : Prop
  | stopped (hstopped : s.executor.loop = .stopped)
  | between (hrunning : s.executor.isTaskRunning = true) (hphase : ∀ k, s.phase ≠ .processing k)
      (hstored : s.stored = lastChange hash start s.executor.calls)
  | updating (before : List (ProcessCall Service)) (services : List Service)
      (versions : OrderedDict Text Text) (hrunning : s.executor.isTaskRunning = true)
      (hphase : s.phase = .processing before.length) (hprocessed : s.processed = none)
      (hcalls : s.executor.calls = before ++ [⟨services, versions, .updating⟩])
      (hchanged : hash (sortedItems versions) ≠ s.stored.2)
      (hstored : s.stored = lastChange hash start before)
  | reading (before : List (ProcessCall Service)) (services : List Service)
      (versions : OrderedDict Text Text) (hrunning : s.executor.isTaskRunning = true)
      (hphase : s.phase = .processing before.length) (hprocessed : s.processed = none)
      (hcalls : s.executor.calls = before ++ [⟨services, versions, .reading⟩])
      (hstored : s.stored = lastChange hash start (before ++ [⟨services, versions, .reading⟩]))

section

variable {start : List Service × ℤ} {s t : MainLoop Service}

theorem Settled.autodiscovery {e : ExecutorEvent Service} {executor : TaskExecutor Service}
    (hs : Settled hash start s) (hkeeps : LoopKeeps s.executor e executor) :
    Settled hash start { s with executor } := by
  obtain ⟨hnotStopped, hcached, hversions, hcalls, htask, -⟩ := hkeeps
  rcases htask with hstopped | htask
  · exact .stopped hstopped
  have hstored : MainLoop.stored { s with executor } = s.stored := by
    rw [MainLoop.stored, MainLoop.stored, hcached, hversions]
  cases hs with
  | stopped hstopped => contradiction
  | between hrunning hphase hbefore =>
    refine .between (htask.trans hrunning) hphase ?_
    rw [hstored, hbefore, ← hcalls]
  | updating before services versions hrunning hphase hprocessed hcalls' hchanged hbefore =>
    refine .updating before services versions (htask.trans hrunning) hphase hprocessed
      (hcalls.trans hcalls') ?_ (hstored.trans hbefore)
    rw [hstored]
    exact hchanged
  | reading before services versions hrunning hphase hprocessed hcalls' hbefore =>
    exact .reading before services versions (htask.trans hrunning) hphase hprocessed
      (hcalls.trans hcalls') (hstored.trans hbefore)

theorem Settled.process {executor : TaskExecutor Service} (hs : Settled hash start s)
    (hphase : s.phase = .ready)
    (h : s.executor.step hash (.process s.baseServices s.extensionVersions) = some executor) :
    Settled hash start (s.startCall executor) := by
  cases h
  cases hs with
  | stopped hstopped =>
    apply Settled.stopped
    rw [MainLoop.startCall]
    split_ifs <;> exact hstopped
  | between hrunning _ hstored =>
    rw [MainLoop.startCall, if_pos hrunning]
    by_cases hchanged : hash (sortedItems s.extensionVersions) ≠
        s.executor.autodiscoveredExtensionVersionsHash
    · refine .updating s.executor.calls s.baseServices s.extensionVersions hrunning rfl rfl ?_
        hchanged hstored
      simp [TaskExecutor.processPhase, hrunning, hchanged]
    · refine .reading s.executor.calls s.baseServices s.extensionVersions hrunning rfl rfl ?_ ?_
      · simp [TaskExecutor.processPhase, hrunning, hchanged]
      · rw [lastChange_snoc, ← hstored]
        exact (if_neg hchanged).symm
  | updating _ _ _ _ hprocessing => cases hphase.symm.trans hprocessing
  | reading _ _ _ _ hprocessing => cases hphase.symm.trans hprocessing

theorem Settled.update {k : ℕ} {executor : TaskExecutor Service} (hs : Settled hash start s)
    (hphase : s.phase = .processing k) (h : s.executor.step hash (.update k) = some executor) :
    Settled hash start { s with executor } := by
  cases hs with
  | stopped hstopped =>
    apply Settled.stopped
    simp only [TaskExecutor.step] at h
    split at h <;> cases h
    exact hstopped
  | between _ hnot => exact absurd hphase (hnot k)
  | updating before services versions hrunning hprocessing hprocessed hcalls hchanged hstored =>
    cases hphase.symm.trans hprocessing
    have hcall : s.executor.calls[before.length]? = some ⟨services, versions, .updating⟩ := by
      simp [hcalls]
    simp only [TaskExecutor.step, hcall, Option.some.injEq] at h
    cases h
    refine .reading before services versions hrunning hprocessing hprocessed ?_ ?_
    · simp [TaskExecutor.updateExtensions, hcalls]
    · rw [lastChange_snoc, ← hstored, if_pos hchanged]
      rfl
  | reading before services versions hrunning hprocessing _ hcalls _ =>
    cases hphase.symm.trans hprocessing
    have hcall : s.executor.calls[before.length]? = some ⟨services, versions, .reading⟩ := by
      simp [hcalls]
    simp [TaskExecutor.step, hcall] at h

theorem Settled.read {k : ℕ} {executor : TaskExecutor Service} (hs : Settled hash start s)
    (hphase : s.phase = .processing k) (h : s.executor.step hash (.read k) = some executor) :
    Settled hash start
      { s with executor, phase := .polling, processed := some s.baseServices } := by
  cases hs with
  | stopped hstopped =>
    apply Settled.stopped
    simp only [TaskExecutor.step] at h
    split at h <;> cases h
    exact hstopped
  | between _ hnot => exact absurd hphase (hnot k)
  | updating before services versions hrunning hprocessing _ hcalls _ _ =>
    cases hphase.symm.trans hprocessing
    have hcall : s.executor.calls[before.length]? = some ⟨services, versions, .updating⟩ := by
      simp [hcalls]
    simp [TaskExecutor.step, hcall] at h
  | reading before services versions hrunning hprocessing _ hcalls hstored =>
    cases hphase.symm.trans hprocessing
    have hcall : s.executor.calls[before.length]? = some ⟨services, versions, .reading⟩ := by
      simp [hcalls]
    simp only [TaskExecutor.step, hcall, Option.some.injEq] at h
    cases h
    refine .between hrunning (by simp) ?_
    have hset : s.executor.calls.set before.length ⟨services, versions, .returned
        (services ++ s.executor.autodiscoveredCachedService.toList)⟩ = before ++
          [⟨services, versions, .returned
            (services ++ s.executor.autodiscoveredCachedService.toList)⟩] := by
      simp [hcalls]
    rw [TaskExecutor.readResult, hset, lastChange_snoc]
    rw [lastChange_snoc] at hstored
    exact hstored

theorem Settled.idle {phase : MainPhase} {services : List Service}
    {versions : OrderedDict Text Text} (hs : Settled hash start s)
    (hbefore : ∀ k, s.phase ≠ .processing k) (hafter : ∀ k, phase ≠ .processing k) :
    Settled hash start
      { s with phase, baseServices := services, extensionVersions := versions } := by
  cases hs with
  | stopped hstopped => exact .stopped hstopped
  | between hrunning _ hstored => exact .between hrunning hafter hstored
  | updating before _ _ _ hphase => exact absurd hphase (hbefore _)
  | reading before _ _ _ hphase => exact absurd hphase (hbefore _)

theorem Settled.step {e : MainEvent Service} (hs : Settled hash start s)
    (h : s.step hash e = some t) : Settled hash start t := by
  unfold MainLoop.step at h
  split at h
  · next e =>
    obtain ⟨hloop, h⟩ := Option.ite_none_right_eq_some.mp h
    obtain ⟨executor, hexecutor, rfl⟩ := Option.map_eq_some_iff.mp h
    exact hs.autodiscovery (loopKeeps_of_step hloop hexecutor)
  · next hphase =>
    obtain ⟨-, h⟩ := Option.ite_none_right_eq_some.mp h
    cases h
    exact hs.idle (by simp [hphase]) (by simp)
  · next hphase =>
    obtain ⟨executor, hexecutor, rfl⟩ := Option.map_eq_some_iff.mp h
    exact hs.process hphase hexecutor
  · next k hphase =>
    obtain ⟨executor, hexecutor, rfl⟩ := Option.map_eq_some_iff.mp h
    exact hs.update hphase hexecutor
  · next k hphase =>
    obtain ⟨executor, hexecutor, rfl⟩ := Option.map_eq_some_iff.mp h
    exact hs.read hphase hexecutor
  · next hphase =>
    cases h
    exact hs.idle (by simp [hphase]) (by simp)
  · cases h

theorem Settled.cachedServices {services : List Service} (hs : Settled hash start s)
    (hnotStopped : s.executor.loop ≠ .stopped) (hprocessed : s.processed = some services) :
    s.executor.cachedServices = (lastChange hash start s.executor.calls).1 := by
  cases hs with
  | stopped hstopped => contradiction
  | between _ _ hstored => exact congrArg Prod.fst hstored
  | updating _ _ _ _ _ hnone => cases hprocessed.symm.trans hnone
  | reading _ _ _ _ _ hnone => cases hprocessed.symm.trans hnone

theorem running_of_startsRun {e : MainEvent Service} (h : s.step hash e = some t)
    (hstarts : e.startsRun = true) : s.executor.loop ≠ .stopped := by
  cases e with
  | autodiscovery e =>
    obtain ⟨hloop, h⟩ := Option.ite_none_right_eq_some.mp h
    obtain ⟨executor, hexecutor, -⟩ := Option.map_eq_some_iff.mp h
    exact (loopKeeps_of_step hloop hexecutor).running
  | _ => cases hstarts

theorem runs_of_step {e : MainEvent Service} (h : s.step hash e = some t) :
    t.executor.runs =
      s.executor.runs ++ if e.startsRun then [s.executor.cachedServices] else [] := by
  unfold MainLoop.step at h
  split at h
  · next e =>
    obtain ⟨hloop, h⟩ := Option.ite_none_right_eq_some.mp h
    obtain ⟨executor, hexecutor, rfl⟩ := Option.map_eq_some_iff.mp h
    exact (loopKeeps_of_step hloop hexecutor).runs
  · obtain ⟨-, h⟩ := Option.ite_none_right_eq_some.mp h
    cases h
    exact (List.append_nil _).symm
  · cases h
    have hexecutor : ∀ executor, (s.startCall executor).executor = executor := by
      intro executor
      rw [MainLoop.startCall]
      split_ifs <;> rfl
    rw [hexecutor]
    exact (List.append_nil _).symm
  · next k _ =>
    obtain ⟨executor, hexecutor, rfl⟩ := Option.map_eq_some_iff.mp h
    simp only [TaskExecutor.step] at hexecutor
    split at hexecutor <;> cases hexecutor
    exact (List.append_nil _).symm
  · next k _ =>
    obtain ⟨executor, hexecutor, rfl⟩ := Option.map_eq_some_iff.mp h
    simp only [TaskExecutor.step] at hexecutor
    split at hexecutor <;> cases hexecutor
    exact (List.append_nil _).symm
  · cases h
    exact (List.append_nil _).symm
  · cases h

theorem givenCurrent_iff {e : MainEvent Service} (hs : Settled hash start s) :
    GivenCurrent hash s e ↔ KeptSinceChange hash start s e := by
  constructor
  · intro hgiven t services hstep hprocessed hstarts
    have hruns := runs_of_step hstep
    rw [if_pos hstarts] at hruns
    rw [← hs.cachedServices (running_of_startsRun hstep hstarts) hprocessed]
    exact (hgiven t services _ hstep hprocessed hruns).symm
  · intro hkept t services run hstep hprocessed hrun
    have hadded := List.append_cancel_left (hrun.symm.trans (runs_of_step hstep))
    cases hstarts : e.startsRun with
    | false => simp [hstarts] at hadded
    | true =>
      rw [hstarts, if_pos rfl, List.singleton_inj] at hadded
      rw [hadded, hs.cachedServices (running_of_startsRun hstep hstarts) hprocessed]
      exact (hkept t services hstep hprocessed hstarts).symm

end

/-- Discovery runs use the services of the last call exactly as far as these have come with other
extension versions than the services before them, or are no others. -/
theorem discovery_runs_use_current_services_iff (hash : List (Text × Text) → ℤ)
    (services : List Service) (extensionVersions : OrderedDict Text Text)
    (trace : List (MainEvent Service)) :
    (mainSystem hash services extensionVersions).Along (GivenCurrent hash) trace ↔
      (mainSystem hash services extensionVersions).Along
        (KeptSinceChange hash (services, hash (sortedItems extensionVersions))) trace := by
  apply System.along_congr
  intro s hreachable e
  have hsettled : Settled hash (services, hash (sortedItems extensionVersions)) s := by
    refine (mainSystem hash services extensionVersions).invariant
      (Settled hash (services, hash (sortedItems extensionVersions))) ?_ ?_ hreachable
    · exact .between rfl (by simp [mainSystem, MainLoop.init]) rfl
    · intro s e t hs hstep
      exact hs.step hstep
  exact givenCurrent_iff hsettled

end

abbrev FlaggedService := ℕ × Bool

def versionCount (items : List (Text × Text)) : ℤ := items.length

def reloadedFlag : List (MainEvent FlaggedService) :=
  [.autodiscovery .start, .autodiscovery (.discovered none), .autodiscovery .store, .created,
    .process, .read, .refreshed [(1, true)] .empty, .process, .read]

theorem reloaded_flag_not_discovered :
    ¬ ∀ (hash : List (Text × Text) → ℤ) (services : List FlaggedService)
      (extensionVersions : OrderedDict Text Text) (trace : List (MainEvent FlaggedService)),
      (mainSystem hash services extensionVersions).Along (GivenCurrent hash) trace := by
  intro hclaim
  have hfinal : ((mainSystem versionCount [(1, false)] .empty).run reloadedFlag).any (fun s =>
      decide (s.processed = some [(1, true)]) &&
        (s.step versionCount (.autodiscovery .waitTimeout)).any (fun t =>
          decide (t.executor.runs = s.executor.runs ++ [[(1, false)]]))) = true := by
    decide +kernel
  obtain ⟨s, hrun, hs⟩ := (Option.any_eq_true _ _).mp hfinal
  obtain ⟨hprocessed, hnext⟩ := Bool.and_eq_true_iff.mp hs
  obtain ⟨t, hstep, hruns⟩ := (Option.any_eq_true _ _).mp hnext
  have hgiven := hclaim versionCount [(1, false)] .empty
    (reloadedFlag ++ [.autodiscovery .waitTimeout]) reloadedFlag (.autodiscovery .waitTimeout) []
    s rfl hrun
  have heq := hgiven t _ _ hstep (of_decide_eq_true hprocessed) (of_decide_eq_true hruns)
  revert heq
  decide

end GcpMonitor.Autodiscovery
