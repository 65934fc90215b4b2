import GcpMonitor.Library.TaskPool
import GcpMonitor.Logs.TokenRefresh

namespace GcpMonitor.Logs

open TransitionSystem TaskPool

variable {Token : Type}

namespace TaskPhase

def stepsLeft : TaskPhase Token → ℕ
  | .refreshing _ => 3
  | .creating _ => 2
  | .requesting _ => 1
  | .ended => 0

def isCreating : TaskPhase Token → Bool
  | .creating _ => true
  | _ => false

theorem stepsLeft_ended_le : (ended : TaskPhase Token).stepsLeft ≤ 1 := Nat.zero_le 1

theorem isCreating_of_stepsLeft_le {task : TaskPhase Token} (h : task.stepsLeft ≤ 1) :
    task.isCreating = false := by
  cases task with
  | creating caller =>
    rw [stepsLeft] at h
    omega
  | _ => rfl

end TaskPhase

namespace TokenEvent

def task : TokenEvent Token → Option ℕ
  | .acquire k _ _ => some k
  | .createRaised k => some k
  | .created k _ _ _ => some k
  | .response k _ => some k
  | .requestFailed k => some k
  | _ => none

def endsCreation : TokenEvent Token → Option ℕ
  | .createRaised k => some k
  | .created k _ _ _ => some k
  | _ => none

end TokenEvent

namespace TokenState

def stepsLeft (s : TokenState Token) : ℕ := (s.tasks.map TaskPhase.stepsLeft).sum

inductive Moves (s t : TokenState Token) : TokenEvent Token → Prop
  | start {e : TokenEvent Token} (started : List (TaskPhase Token)) (he : e.task = none)
    (hstarted : ∀ task ∈ started, task.isCreating = false) (htasks : t.tasks = s.tasks ++ started)
    (hlock : t.refreshLock = s.refreshLock) (htoken : t.client.apiToken = s.client.apiToken) :
    Moves s t e
  | lock {k : ℕ} {now later : ℚ} {caller : RefreshCaller}
    (htask : s.tasks[k]? = some (.refreshing caller)) (hfree : s.refreshLock = none)
    (htasks : t.tasks = s.tasks.set k (.creating caller)) (hlock : t.refreshLock = some k)
    (htoken : t.client.apiToken = s.client.apiToken) : Moves s t (.acquire k now later)
  | pass {k : ℕ} {now later : ℚ} {caller : RefreshCaller} {new : TaskPhase Token}
    (htask : s.tasks[k]? = some (.refreshing caller)) (hfree : s.refreshLock = none)
    (hnew : new.stepsLeft ≤ 1) (htasks : t.tasks = s.tasks.set k new)
    (hlock : t.refreshLock = none) (htoken : t.client.apiToken = s.client.apiToken) :
    Moves s t (.acquire k now later)
  | unlock {e : TokenEvent Token} {k : ℕ} {caller : RefreshCaller} {new : TaskPhase Token}
    (he : e.endsCreation = some k) (htask : s.tasks[k]? = some (.creating caller))
    (hheld : s.refreshLock = some k) (hnew : new.stepsLeft ≤ 1)
    (htasks : t.tasks = s.tasks.set k new) (hlock : t.refreshLock = none) : Moves s t e
  | finish {e : TokenEvent Token} {k : ℕ} {sent : Token} (he : e.task = some k)
    (hends : e.endsCreation = none) (htask : s.tasks[k]? = some (.requesting sent))
    (htasks : t.tasks = s.tasks.set k .ended) (hlock : t.refreshLock = s.refreshLock)
    (htoken : t.client.apiToken = s.client.apiToken) : Moves s t e

variable {s t : TokenState Token} {e : TokenEvent Token}

theorem refreshReturned_eq (s : TokenState Token) (k : ℕ) (later : ℚ) (caller : RefreshCaller) :
    ∃ new : TaskPhase Token, new.stepsLeft ≤ 1 ∧
      (s.refreshReturned k later caller).tasks = s.tasks.set k new ∧
      (s.refreshReturned k later caller).refreshLock = s.refreshLock ∧
      (s.refreshReturned k later caller).client = s.client := by
  cases caller with
  | performPull => exact ⟨.ended, Nat.zero_le 1, rfl, rfl, rfl⟩
  | pushAckIds => exact ⟨.requesting s.client.apiToken, Nat.le_refl 1, rfl, rfl, rfl⟩

theorem refreshRaised_eq (s : TokenState Token) (k : ℕ) (caller : RefreshCaller) :
    (s.refreshRaised k caller).tasks = s.tasks.set k .ended ∧
      (s.refreshRaised k caller).refreshLock = s.refreshLock := by
  cases caller <;> exact ⟨rfl, rfl⟩

theorem acquire_moves {k : ℕ} {caller : RefreshCaller} {now later : ℚ}
    (htask : s.tasks[k]? = some (.refreshing caller)) (hfree : s.refreshLock = none) :
    s.Moves (s.acquire k caller now later) (.acquire k now later) := by
  rw [acquire]
  split_ifs
  · obtain ⟨new, hnew, htasks, hlock, hclient⟩ := s.refreshReturned_eq k later caller
    exact .pass htask hfree hnew htasks (hlock.trans hfree) (congrArg GCPClient.apiToken hclient)
  · exact .lock htask hfree rfl rfl rfl

theorem created_moves {k : ℕ} {caller : RefreshCaller} (tokenInfo : TokenInfo Token)
    (now later : ℚ) (htask : s.tasks[k]? = some (.creating caller))
    (hheld : s.refreshLock = some k) :
    s.Moves (s.created k caller tokenInfo now later) (.created k tokenInfo now later) := by
  rw [created]
  cases hupdate : s.client.updateToken tokenInfo now with
  | mk client updated =>
    cases updated with
    | true =>
      obtain ⟨new, hnew, htasks, hlock, -⟩ := refreshReturned_eq { s with
        client, refreshLock := none, installed := true, observedBad := false } k later caller
      exact .unlock rfl htask hheld hnew htasks hlock
    | false =>
      obtain ⟨htasks, hlock⟩ := refreshRaised_eq { s with client, refreshLock := none } k caller
      exact .unlock rfl htask hheld TaskPhase.stepsLeft_ended_le htasks hlock

def CreatingAt (tasks : List (TaskPhase Token)) (k : ℕ) : Prop :=
  ∃ task, tasks[k]? = some task ∧ task.isCreating = true

theorem creatingAt_append {tasks started : List (TaskPhase Token)}
    (h : ∀ task ∈ started, task.isCreating = false) (k : ℕ) :
    CreatingAt (tasks ++ started) k ↔ CreatingAt tasks k := by
  rw [CreatingAt, CreatingAt]
  by_cases hk : k < tasks.length
  · rw [List.getElem?_append_left hk]
  · rw [List.getElem?_append_right (not_lt.mp hk), List.getElem?_eq_none (not_lt.mp hk)]
    constructor
    · rintro ⟨task, htask, hcreating⟩
      rw [h task (List.mem_of_getElem? htask)] at hcreating
      contradiction
    · rintro ⟨task, htask, -⟩
      contradiction

theorem creatingAt_set {tasks : List (TaskPhase Token)} {j : ℕ} {old : TaskPhase Token}
    (hold : tasks[j]? = some old) (new : TaskPhase Token) (k : ℕ) :
    CreatingAt (tasks.set j new) k ↔
      if k = j then new.isCreating = true else CreatingAt tasks k := by
  have hj := (List.getElem?_eq_some_iff.mp hold).1
  rw [CreatingAt]
  by_cases hk : k = j
  · subst hk
    rw [List.getElem?_set_self hj, if_pos rfl]
    simp
  · rw [List.getElem?_set_ne (Ne.symm hk), if_neg hk, CreatingAt]

def Locked (s : TokenState Token) : Prop :=
  ∀ k, s.refreshLock = some k ↔ CreatingAt s.tasks k

theorem Locked.not_creatingAt (h : Locked s) (hfree : s.refreshLock = none) (k : ℕ) :
    ¬ CreatingAt s.tasks k := by
  intro hcreating
  rw [← h k, hfree] at hcreating
  contradiction

theorem Moves.held (hm : s.Moves t e) {k : ℕ} (hheld : s.refreshLock = some k)
    (he : e.endsCreation ≠ some k) :
    t.refreshLock = some k ∧ t.client.apiToken = s.client.apiToken ∧ e.endsCreation = none := by
  cases hm with
  | start started hnone hstarted htasks hlock htoken =>
    refine ⟨hlock.trans hheld, htoken, ?_⟩
    cases e with
    | createRaised => contradiction
    | created => contradiction
    | _ => rfl
  | lock htask hfree =>
    rw [hfree] at hheld
    contradiction
  | pass htask hfree =>
    rw [hfree] at hheld
    contradiction
  | unlock hends htask hother =>
    rw [hother] at hheld
    exact absurd (hends.trans hheld) he
  | finish htask' hends htask htasks hlock htoken => exact ⟨hlock.trans hheld, htoken, hends⟩

variable [DecidableEq Token]

theorem respond_moves {k : ℕ} {sent : Token} (status : ℕ)
    (htask : s.tasks[k]? = some (.requesting sent)) :
    s.Moves (s.respond k sent status) (.response k status) := by
  rw [respond]
  split_ifs
  · exact .finish rfl rfl htask rfl rfl rfl
  · exact .finish rfl rfl htask rfl rfl rfl

theorem step_moves (h : s.step e = some t) : s.Moves t e := by
  cases e with
  | performPull =>
    cases h
    split_ifs
    · refine .start [.refreshing .performPull] rfl ?_ rfl rfl rfl
      simp [TaskPhase.isCreating]
    · exact .start [] rfl (by simp) (List.append_nil _).symm rfl rfl
  | pullMessages now =>
    cases h
    split_ifs
    all_goals
      refine .start [.requesting s.client.apiToken] rfl ?_ rfl rfl rfl
      simp [TaskPhase.isCreating]
  | pushAckIds now =>
    cases h
    split_ifs
    · refine .start [.refreshing .pushAckIds] rfl ?_ rfl rfl rfl
      simp [TaskPhase.isCreating]
    · refine .start [.requesting s.client.apiToken] rfl ?_ rfl rfl rfl
      simp [TaskPhase.isCreating]
  | acquire k now later =>
    simp only [step] at h
    split at h
    · next hfree htask =>
      cases h
      exact acquire_moves htask hfree
    · cases h
  | createRaised k =>
    simp only [step] at h
    split at h
    · next caller htask =>
      obtain ⟨hheld, h⟩ := Option.ite_none_right_eq_some.mp h
      cases h
      obtain ⟨htasks, hlock⟩ := refreshRaised_eq { s with refreshLock := none } k caller
      exact .unlock rfl htask hheld TaskPhase.stepsLeft_ended_le htasks hlock
    · cases h
  | created k tokenInfo now later =>
    simp only [step] at h
    split at h
    · next caller htask =>
      obtain ⟨hheld, h⟩ := Option.ite_none_right_eq_some.mp h
      cases h
      exact created_moves tokenInfo now later htask hheld
    · cases h
  | response k status =>
    simp only [step] at h
    split at h
    · next sent htask =>
      cases h
      exact respond_moves status htask
    · cases h
  | requestFailed k =>
    simp only [step] at h
    split at h
    · next sent htask =>
      cases h
      exact .finish rfl rfl htask rfl rfl rfl
    · cases h

theorem Locked.step (h : Locked s) (hstep : s.step e = some t) : Locked t := by
  intro k
  cases step_moves hstep with
  | start started he hstarted htasks hlock =>
    rw [hlock, htasks, creatingAt_append hstarted]
    exact h k
  | @lock j _ _ caller htask hfree htasks hlock =>
    rw [hlock, htasks, creatingAt_set htask]
    by_cases hk : k = j
    · simp [hk, TaskPhase.isCreating]
    · rw [if_neg hk]
      refine iff_of_false ?_ (h.not_creatingAt hfree k)
      intro heq
      exact hk (Option.some.inj heq).symm
  | pass htask hfree hnew htasks hlock =>
    rw [hlock, htasks, creatingAt_set htask, TaskPhase.isCreating_of_stepsLeft_le hnew]
    refine iff_of_false (by simp) ?_
    split_ifs
    · exact not_false
    · exact h.not_creatingAt hfree k
  | @unlock _ j caller new he htask hheld hnew htasks hlock =>
    rw [hlock, htasks, creatingAt_set htask, TaskPhase.isCreating_of_stepsLeft_le hnew]
    refine iff_of_false (by simp) ?_
    split_ifs with hk
    · exact not_false
    · intro hcreating
      rw [← h k, hheld] at hcreating
      exact hk (Option.some.inj hcreating).symm
  | @finish _ j sent he hends htask htasks hlock =>
    rw [hlock, htasks, creatingAt_set htask, h k]
    split_ifs with hk
    · subst hk
      rw [CreatingAt, htask]
      simp [TaskPhase.isCreating]
    · exact Iff.rfl

theorem locked_of_reachable {apiToken : Token} {tokenExpiresAt : ℚ}
    (h : (tokenSystem apiToken tokenExpiresAt).Reachable s) : Locked s := by
  apply (tokenSystem apiToken tokenExpiresAt).invariant Locked _ _ h
  · intro k
    refine iff_of_false (by simp [tokenSystem, init]) ?_
    rintro ⟨task, htask, -⟩
    contradiction
  · intro s e t hs hstep
    exact hs.step hstep

theorem stepsLeft_lt (hstep : s.step e = some t) (he : e.task.isSome = true) :
    t.stepsLeft < s.stepsLeft := by
  cases step_moves hstep with
  | start started hnone =>
    rw [hnone] at he
    contradiction
  | lock htask hfree htasks =>
    rw [stepsLeft, stepsLeft, htasks]
    apply sum_map_set_lt htask
    simp [TaskPhase.stepsLeft]
  | pass htask hfree hnew htasks =>
    rw [stepsLeft, stepsLeft, htasks]
    apply sum_map_set_lt htask
    rw [TaskPhase.stepsLeft]
    omega
  | unlock hends htask hheld hnew htasks =>
    rw [stepsLeft, stepsLeft, htasks]
    apply sum_map_set_lt htask
    rw [TaskPhase.stepsLeft]
    omega
  | finish htask' hends htask htasks =>
    rw [stepsLeft, stepsLeft, htasks]
    apply sum_map_set_lt htask
    simp [TaskPhase.stepsLeft]

/-- Whatever comes of what coroutine `k` waits for, it can go on. -/
def Offers (s : TokenState Token) (k : ℕ) : Prop :=
  match s.tasks[k]? with
  | some (.refreshing _) => ∀ now later, (s.step (.acquire k now later)).isSome = true
  | some (.creating _) => (s.step (.createRaised k)).isSome = true ∧
      ∀ tokenInfo now later, (s.step (.created k tokenInfo now later)).isSome = true
  | some (.requesting _) => (s.step (.requestFailed k)).isSome = true ∧
      ∀ status, (s.step (.response k status)).isSome = true
  | _ => False

theorem Locked.offers (h : Locked s) {task : TaskPhase Token} (hmem : task ∈ s.tasks)
    (hended : task ≠ .ended) : ∃ k, s.Offers k := by
  obtain ⟨k, hk⟩ := List.mem_iff_getElem?.mp hmem
  cases task with
  | ended => contradiction
  | requesting sent =>
    refine ⟨k, ?_⟩
    rw [Offers, hk]
    simp [TokenState.step, hk]
  | creating caller =>
    have hheld := (h k).mpr ⟨_, hk, rfl⟩
    refine ⟨k, ?_⟩
    rw [Offers, hk]
    simp [TokenState.step, hk, hheld]
  | refreshing caller =>
    cases hlock : s.refreshLock with
    | none =>
      refine ⟨k, ?_⟩
      rw [Offers, hk]
      simp [TokenState.step, hk, hlock]
    | some j =>
      -- the coroutine with the lock goes on first
      obtain ⟨holder, hholder, hcreating⟩ := (h j).mp hlock
      cases holder with
      | creating caller' =>
        refine ⟨j, ?_⟩
        rw [Offers, hholder]
        simp [TokenState.step, hholder, hlock]
      | _ => contradiction

theorem held_of_runFrom {apiToken : Token} {tokenExpiresAt : ℚ} {k : ℕ}
    (trace : List (TokenEvent Token)) (s : TokenState Token) (hheld : s.refreshLock = some k)
    (hrun : (tokenSystem apiToken tokenExpiresAt).runFrom s trace = some t)
    (htrace : ∀ e ∈ trace, e.endsCreation ≠ some k) :
    t.refreshLock = some k ∧ t.client.apiToken = s.client.apiToken ∧
      ∀ e ∈ trace, e.endsCreation = none := by
  induction trace generalizing s with
  | nil =>
    cases hrun
    exact ⟨hheld, rfl, by simp⟩
  | cons e trace ih =>
    obtain ⟨next, hstep, hrest⟩ := Option.bind_eq_some_iff.mp hrun
    obtain ⟨hnext, htoken, hends⟩ := (step_moves hstep).held hheld (htrace e List.mem_cons_self)
    obtain ⟨hlock, htoken', hends'⟩ :=
      ih next hnext hrest (fun e he => htrace e (List.mem_cons_of_mem _ he))
    exact ⟨hlock, htoken'.trans htoken, List.forall_mem_cons.mpr ⟨hends, hends'⟩⟩

theorem length_le_of_runFrom {apiToken : Token} {tokenExpiresAt : ℚ}
    (trace : List (TokenEvent Token)) (s : TokenState Token)
    (hrun : (tokenSystem apiToken tokenExpiresAt).runFrom s trace = some t)
    (htrace : ∀ e ∈ trace, e.task.isSome = true) : trace.length + t.stepsLeft ≤ s.stepsLeft := by
  induction trace generalizing s with
  | nil =>
    cases hrun
    simp
  | cons e trace ih =>
    obtain ⟨next, hstep, hrest⟩ := Option.bind_eq_some_iff.mp hrun
    have hlt := stepsLeft_lt hstep (htrace e List.mem_cons_self)
    have hle := ih next hrest (fun e he => htrace e (List.mem_cons_of_mem _ he))
    rw [List.length_cons]
    omega

theorem reachable_runFrom {apiToken : Token} {tokenExpiresAt : ℚ}
    (h : (tokenSystem apiToken tokenExpiresAt).Reachable s) {trace : List (TokenEvent Token)}
    (hrun : (tokenSystem apiToken tokenExpiresAt).runFrom s trace = some t) :
    (tokenSystem apiToken tokenExpiresAt).Reachable t := by
  obtain ⟨before, hbefore⟩ := h
  refine ⟨before ++ trace, ?_⟩
  rw [System.run, System.runFrom_append]
  exact Option.bind_eq_some_iff.mpr ⟨s, hbefore, hrun⟩

end TokenState

/-- The workers' refreshes exclude one another and none of them is left waiting: in every state of
every run the lock is that of the one coroutine that waits for a new token, which alone can change
the token until its refresh has ended; and the coroutines that have started all end after at most
so many steps, whatever Google Cloud answers them and in whatever order they go on. -/
theorem refreshes_exclude_and_end [DecidableEq Token] (apiToken : Token) (tokenExpiresAt : ℚ)
    {s : TokenState Token} (h : (tokenSystem apiToken tokenExpiresAt).Reachable s) :
    (∀ k, s.refreshLock = some k ↔ TokenState.CreatingAt s.tasks k) ∧
    (∀ k trace t, s.refreshLock = some k →
      (tokenSystem apiToken tokenExpiresAt).runFrom s trace = some t →
        (∀ e ∈ trace, e.endsCreation ≠ some k) →
          t.refreshLock = some k ∧ t.client.apiToken = s.client.apiToken ∧
            ∀ e ∈ trace, e.endsCreation = none) ∧
    ∀ trace t, (tokenSystem apiToken tokenExpiresAt).runFrom s trace = some t →
      (∀ e ∈ trace, e.task.isSome = true) → trace.length ≤ s.stepsLeft ∧
        ((∀ k, ¬ t.Offers k) → ∀ task ∈ t.tasks, task = .ended) := by
  refine ⟨TokenState.locked_of_reachable h, fun k trace t => TokenState.held_of_runFrom trace s, ?_⟩
  intro trace t hrun htrace
  have hlength := TokenState.length_le_of_runFrom trace s hrun htrace
  refine ⟨by omega, ?_⟩
  intro hnone task hmem
  by_contra hended
  have hlocked := TokenState.locked_of_reachable (TokenState.reachable_runFrom h hrun)
  obtain ⟨k, hk⟩ := hlocked.offers hmem hended
  exact hnone k hk

theorem refreshes_exclude_and_end_refused : ∃ s : TokenState ℕ,
    (tokenSystem 1 100).run [.pullMessages 10, .response 0 401, .performPull, .performPull,
      .acquire 2 20 20] = some s ∧ s.refreshLock = some 2 ∧ TokenState.CreatingAt s.tasks 2 := by
  obtain ⟨s, hs, hlock⟩ : ∃ s : TokenState ℕ,
      (tokenSystem 1 100).run [.pullMessages 10, .response 0 401, .performPull, .performPull,
        .acquire 2 20 20] = some s ∧ s.refreshLock = some 2 := ⟨_, rfl, rfl⟩
  exact ⟨s, hs, hlock, ((refreshes_exclude_and_end 1 100 ⟨_, hs⟩).1 2).mp hlock⟩

end GcpMonitor.Logs
