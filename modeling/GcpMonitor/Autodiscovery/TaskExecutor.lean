import GcpMonitor.Library.OrderedDict
import GcpMonitor.Library.TransitionSystem
import GcpMonitor.Python.Text
import Mathlib.Data.Char
import Mathlib.Data.List.Lex

namespace GcpMonitor.Autodiscovery

open TransitionSystem

variable {Service : Type}

def sortedItems (versions : OrderedDict Text Text) : List (Text × Text) :=
  versions.entries.mergeSort (fun a b => a.1 ≤ b.1)

/-- Where `_init_autodiscovery_task` is: not entered yet, in a discovery run, before the lock with
the result of one, in the wait for the event, past the wait and before the lock, or ended. -/
inductive LoopPhase (Service : Type) where
  | notStarted
  | running
  | storing (result : Option Service)
  | waiting
  | woken
  | stopped

inductive ProcessPhase (Service : Type) where
  | updating
  | reading
  | returned (services : List Service)

structure ProcessCall (Service : Type) where
  services : List Service
  newExtensionVersions : OrderedDict Text Text
  phase : ProcessPhase Service

structure TaskExecutor (Service : Type) where
  cachedServices : List Service
  autodiscoveredCachedService : Option Service
  autodiscoveredExtensionVersionsHash : ℤ
  isTaskRunning : Bool
  notifyEvent : Bool
  observers : List ℕ
  notified : List ℕ
  loop : LoopPhase Service
  calls : List (ProcessCall Service)
  runs : List (List Service)

/-- What happens between two suspension points of one of the coroutines. -/
inductive ExecutorEvent (Service : Type) where
  | start
  | discovered (result : Option Service)
  | discoveryTimeout
  | discoveryError
  | store
  | wake
  | waitTimeout
  | clear
  | addObserver (observer : ℕ)
  | process (services : List Service) (newExtensionVersions : OrderedDict Text Text)
  | update (k : ℕ)
  | read (k : ℕ)

namespace TaskExecutor

variable (hash : List (Text × Text) → ℤ)

def init (services : List Service) (currentExtensionVersions : OrderedDict Text Text)
    (initObserverList : List ℕ) : TaskExecutor Service where
  cachedServices := services
  autodiscoveredCachedService := none
  autodiscoveredExtensionVersionsHash := hash (sortedItems currentExtensionVersions)
  isTaskRunning := true
  notifyEvent := false
  observers := initObserverList
  notified := []
  loop := .notStarted
  calls := []
  runs := []

def startRun (s : TaskExecutor Service) : TaskExecutor Service :=
  { s with loop := .running, runs := s.runs ++ [s.cachedServices] }

def notifyObservers (s : TaskExecutor Service) : TaskExecutor Service :=
  { s with observers := [], notified := s.notified ++ s.observers.reverse }

def storeResult (s : TaskExecutor Service) (result : Option Service) : TaskExecutor Service :=
  { s with autodiscoveredCachedService := result.or s.autodiscoveredCachedService }

def waitForEvent (s : TaskExecutor Service) : TaskExecutor Service :=
  { s with loop := if s.notifyEvent then .woken else .waiting }

def stop (s : TaskExecutor Service) : TaskExecutor Service :=
  { s with loop := .stopped, isTaskRunning := false }

def processPhase (s : TaskExecutor Service) (services : List Service)
    (newExtensionVersions : OrderedDict Text Text) : ProcessPhase Service :=
  if s.isTaskRunning then
    if hash (sortedItems newExtensionVersions) ≠ s.autodiscoveredExtensionVersionsHash then
      .updating
    else .reading
  else .returned services

def updateExtensions (s : TaskExecutor Service) (k : ℕ) (call : ProcessCall Service) :
    TaskExecutor Service :=
  { s with
    notifyEvent := true
    autodiscoveredExtensionVersionsHash := hash (sortedItems call.newExtensionVersions)
    cachedServices := call.services
    calls := s.calls.set k { call with phase := .reading } }

def readResult (s : TaskExecutor Service) (k : ℕ) (call : ProcessCall Service) :
    TaskExecutor Service :=
  { s with
    calls := s.calls.set k { call with
      phase := .returned (call.services ++ s.autodiscoveredCachedService.toList) } }

def step (s : TaskExecutor Service) (e : ExecutorEvent Service) : Option (TaskExecutor Service) :=
  match e, s.loop with
  | .start, .notStarted => some s.startRun
  | .discovered result, .running => some { s with loop := .storing result }
  | .discoveryTimeout, .running => some s.startRun
  | .discoveryError, .running => some s.stop.notifyObservers
  | .store, .storing result => some (s.storeResult result).notifyObservers.waitForEvent
  | .wake, .waiting => if s.notifyEvent then some { s with loop := .woken } else none
  | .waitTimeout, .waiting => some s.startRun
  | .clear, .woken => some { s with notifyEvent := false }.startRun
  | .addObserver observer, _ => some { s with observers := s.observers ++ [observer] }
  | .process services newExtensionVersions, _ =>
    some { s with calls := s.calls ++
      [⟨services, newExtensionVersions, s.processPhase hash services newExtensionVersions⟩] }
  | .update k, _ =>
    match s.calls[k]? with
    | some ⟨services, versions, .updating⟩ =>
      some (s.updateExtensions hash k ⟨services, versions, .updating⟩)
    | _ => none
  | .read k, _ =>
    match s.calls[k]? with
    | some ⟨services, versions, .reading⟩ => some (s.readResult k ⟨services, versions, .reading⟩)
    | _ => none
  | _, _ => none

/-- What a step means for the service lists: a run starts with the cached one, a call stores
another one and sets the event, or neither. -/
inductive Effect (s : TaskExecutor Service) (e : ExecutorEvent Service)
    (t : TaskExecutor Service) : Prop
  | run (hruns : t.runs = s.runs ++ [s.cachedServices])
      (hcached : t.cachedServices = s.cachedServices)
      (hevent : e = .clear ∨ t.notifyEvent = s.notifyEvent)
  | store (hruns : t.runs = s.runs) (hset : t.notifyEvent = true)
  | quiet (hruns : t.runs = s.runs) (hcached : t.cachedServices = s.cachedServices)
      (hevent : t.notifyEvent = s.notifyEvent)

variable {hash : List (Text × Text) → ℤ} {s t : TaskExecutor Service} {e : ExecutorEvent Service}

theorem effect_of_step (h : s.step hash e = some t) : Effect s e t := by
  unfold step at h
  split at h
  -- the steps of the loop
  · cases h
    exact .run rfl rfl (.inr rfl)
  · cases h
    exact .quiet rfl rfl rfl
  · cases h
    exact .run rfl rfl (.inr rfl)
  · cases h
    exact .quiet rfl rfl rfl
  · cases h
    exact .quiet rfl rfl rfl
  · obtain ⟨-, h⟩ := Option.ite_none_right_eq_some.mp h
    cases h
    exact .quiet rfl rfl rfl
  · cases h
    exact .run rfl rfl (.inr rfl)
  · cases h
    exact .run rfl rfl (.inl rfl)
  -- the other coroutines
  · cases h
    exact .quiet rfl rfl rfl
  · cases h
    exact .quiet rfl rfl rfl
  · split at h
    · cases h
      exact .store rfl rfl
    · cases h
  · split at h
    · cases h
      exact .quiet rfl rfl rfl
    · cases h
  · cases h

theorem Effect.length_le (h : Effect s e t) : s.runs.length ≤ t.runs.length := by
  cases h with
  | run hruns =>
    rw [hruns, List.length_append]
    omega
  | store hruns => rw [hruns]
  | quiet hruns => rw [hruns]

theorem Effect.notifyEvent (h : Effect s e t) (hclear : e ≠ .clear) (hset : s.notifyEvent = true) :
    t.notifyEvent = true := by
  cases h with
  | run _ _ hevent =>
    obtain hevent | hevent := hevent
    · contradiction
    · rw [hevent, hset]
  | store _ hset' => exact hset'
  | quiet _ _ hevent => rw [hevent, hset]

theorem woken_of_store (h : s.step hash .store = some t) (hset : s.notifyEvent = true) :
    t.loop = .woken := by
  cases hloop : s.loop with
  | storing result =>
    simp only [step, hloop, Option.some.injEq] at h
    rw [← h]
    exact if_pos hset
  | _ => simp [step, hloop] at h

theorem exists_wake (hwaiting : s.loop = .waiting) (hset : s.notifyEvent = true) :
    ∃ t, s.step hash .wake = some t ∧ t.loop = .woken := by
  refine ⟨{ s with loop := .woken }, ?_, rfl⟩
  simp [step, hwaiting, hset]

def UpToDate (s : TaskExecutor Service) : Prop :=
  s.notifyEvent = false → s.runs = [] ∨ s.runs.getLast? = some s.cachedServices

theorem Effect.upToDate (h : Effect s e t) (hs : s.UpToDate) : t.UpToDate := by
  intro hclear
  cases h with
  | run hruns hcached =>
    right
    rw [hruns, hcached, List.getLast?_append, List.getLast?_singleton]
    rfl
  | store _ hset =>
    rw [hset] at hclear
    cases hclear
  | quiet hruns hcached hevent =>
    rw [hruns, hcached]
    exact hs (hevent ▸ hclear)

end TaskExecutor

def executorSystem (hash : List (Text × Text) → ℤ) (start : TaskExecutor Service) :
    System (TaskExecutor Service) (ExecutorEvent Service) where
  init := start
  step := TaskExecutor.step hash

section

open TaskExecutor

variable {hash : List (Text × Text) → ℤ} {start s t : TaskExecutor Service}

theorem upToDate_of_run (hstart : start.UpToDate) :
    ∀ trace s, (executorSystem hash start).run trace = some s → s.UpToDate := by
  apply (executorSystem hash start).trace_invariant (fun _ s => s.UpToDate) hstart
  intro _ s e t _ hs hstep
  exact (effect_of_step hstep).upToDate hs

theorem notifyEvent_of_runFrom (hset : s.notifyEvent = true) :
    ∀ after t, (executorSystem hash start).runFrom s after = some t →
      s.runs.length < t.runs.length ∨ t.runs = s.runs ∧ t.notifyEvent = true := by
  let M : System (TaskExecutor Service) (ExecutorEvent Service) := ⟨s, TaskExecutor.step hash⟩
  apply M.trace_invariant
    (fun _ t => s.runs.length < t.runs.length ∨ t.runs = s.runs ∧ t.notifyEvent = true)
  · exact .inr ⟨rfl, hset⟩
  · rintro - t e u - hinv hstep
    have heffect := effect_of_step hstep
    obtain hlt | ⟨hruns, hevent⟩ := hinv
    · exact .inl (hlt.trans_le heffect.length_le)
    · cases heffect with
      | run hmore =>
        left
        rw [hmore, hruns, List.length_append, List.length_singleton]
        omega
      | store hsame hset' => exact .inr ⟨hsame.trans hruns, hset'⟩
      | quiet hsame _ hevent' => exact .inr ⟨hsame.trans hruns, hevent'.trans hevent⟩

theorem notifyEvent_of_no_clear (hset : s.notifyEvent = true) :
    ∀ after t, (executorSystem hash start).runFrom s after = some t → .clear ∉ after →
      t.notifyEvent = true := by
  let M : System (TaskExecutor Service) (ExecutorEvent Service) := ⟨s, TaskExecutor.step hash⟩
  apply M.trace_invariant (fun after t => .clear ∉ after → t.notifyEvent = true)
  · exact fun _ => hset
  · intro after t e u _ hinv hstep hclear
    rw [List.mem_append, not_or, List.mem_singleton] at hclear
    exact (effect_of_step hstep).notifyEvent (Ne.symm hclear.2) (hinv hclear.1)

theorem notifyEvent_of_update {k : ℕ} (h : s.step hash (.update k) = some t) :
    t.notifyEvent = true := by
  simp only [step] at h
  split at h
  · cases h
    rfl
  · cases h

end

theorem no_extension_update_is_lost (hash : List (Text × Text) → ℤ) (services : List Service)
    (versions : OrderedDict Text Text) (observers : List ℕ)
    {trace : List (ExecutorEvent Service)} {s : TaskExecutor Service}
    (hrun : (executorSystem hash (.init hash services versions observers)).run trace = some s) :
    (s.notifyEvent = false → s.runs = [] ∨ s.runs.getLast? = some s.cachedServices) ∧
      ∀ before k after s₁, trace = before ++ .update k :: after →
        (executorSystem hash (.init hash services versions observers)).run
          (before ++ [.update k]) = some s₁ → s.runs = s₁.runs →
            s.notifyEvent = true ∧
              (s.loop = .waiting → ∃ t, s.step hash .wake = some t ∧ t.loop = .woken) ∧
              ∀ later t u, (executorSystem hash (.init hash services versions observers)).runFrom s
                later = some t → .clear ∉ later → t.step hash .store = some u →
                  u.loop = .woken := by
  constructor
  · have hinit : (TaskExecutor.init hash services versions observers).UpToDate := fun _ => .inl rfl
    exact upToDate_of_run hinit trace s hrun
  · rintro before k after s₁ rfl hupdate hruns
    have hafter : (executorSystem hash (.init hash services versions observers)).runFrom s₁ after =
        some s := by
      rw [List.append_cons, System.run, System.runFrom_append] at hrun
      obtain ⟨s₂, hs₂, hafter⟩ := Option.bind_eq_some_iff.mp hrun
      rw [System.run, hs₂] at hupdate
      cases hupdate
      exact hafter
    obtain ⟨s₀, -, hstep⟩ := System.run_snoc_some _ hupdate
    have hset : s.notifyEvent = true := by
      obtain hlt | ⟨-, hset⟩ := notifyEvent_of_runFrom (notifyEvent_of_update hstep) after s hafter
      · rw [hruns] at hlt
        omega
      · exact hset
    refine ⟨hset, fun hwaiting => TaskExecutor.exists_wake hwaiting hset, ?_⟩
    intro later t u hlater hclear hstore
    exact TaskExecutor.woken_of_store hstore (notifyEvent_of_no_clear hset later t hlater hclear)

def exampleSystem : System (TaskExecutor ℕ) (ExecutorEvent ℕ) :=
  executorSystem (fun items => items.length) (.init (fun items => items.length) [10] .empty [])

def updateDuringRun : List (ExecutorEvent ℕ) :=
  [.start, .process [10, 20] (OrderedDict.empty.set "cloudsql".toList "2.0.0".toList),
    .discovered (some 7), .update 0]

theorem no_extension_update_is_lost_during_run :
    ∃ s t, exampleSystem.run updateDuringRun = some s ∧ s.cachedServices = [10, 20] ∧
      s.runs = [[10]] ∧ exampleSystem.step s .store = some t ∧ t.loop = .woken := by
  have hfinal : (exampleSystem.run updateDuringRun).any (fun s =>
      decide (s.cachedServices = [10, 20] ∧ s.runs = [[10]]) &&
        (exampleSystem.step s .store).isSome) = true := by
    decide +kernel
  obtain ⟨s, hrun, hs⟩ := (Option.any_eq_true _ _).mp hfinal
  obtain ⟨hlists, hstore⟩ := Bool.and_eq_true_iff.mp hs
  obtain ⟨hcached, hruns⟩ := of_decide_eq_true hlists
  obtain ⟨t, ht⟩ := Option.isSome_iff_exists.mp hstore
  obtain ⟨-, hupdated⟩ := no_extension_update_is_lost _ _ _ _ hrun
  obtain ⟨-, -, hwait⟩ := hupdated (updateDuringRun.take 3) 0 [] s rfl hrun rfl
  exact ⟨s, t, hrun, hcached, hruns, ht, hwait [] s t rfl List.not_mem_nil ht⟩

end GcpMonitor.Autodiscovery
