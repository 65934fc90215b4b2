import GcpMonitor.Library.TransitionSystem
import Mathlib.Data.Rat.Defs

namespace GcpMonitor.Logs

open TransitionSystem

variable {Token : Type}

inductive TokenInfo (Token : Type) where
  | text (token : Token)
  | dict (accessToken : Option Token) (expiresAt : Option ℚ)
  | other

structure GCPClient (Token : Type) where
  apiToken : Token
  tokenExpiresAt : ℚ
  updateGcpClientInTheNextLoop : Bool

namespace GCPClient

def isTokenExpired (client : GCPClient Token) (now : ℚ) : Bool := client.tokenExpiresAt ≤ now

def updateToken (client : GCPClient Token) (tokenInfo : TokenInfo Token) (now : ℚ) :
    GCPClient Token × Bool :=
  match tokenInfo with
  | .text token => (⟨token, now + 3600, false⟩, true)
  | .dict (some token) expiresAt => (⟨token, expiresAt.getD (now + 3600), false⟩, true)
  | _ => ({ client with updateGcpClientInTheNextLoop := true }, false)

end GCPClient

inductive RefreshCaller where
  | performPull
  | pushAckIds
  deriving DecidableEq

/-- Where a coroutine waits: for the refresh lock, for `create_token_with_expiry` under the lock, or
for the answer to a request with the token it was sent with. -/
inductive TaskPhase (Token : Type) where
  | refreshing (caller : RefreshCaller)
  | creating (caller : RefreshCaller)
  | requesting (sent : Token)
  | ended

/-- The client with the coroutines of all workers. `installed` tells whether the token comes from
`update_token`, and `observedBad` whether it has been found expired or refused since. -/
structure TokenState (Token : Type) where
  client : GCPClient Token
  refreshLock : Option ℕ
  tasks : List (TaskPhase Token)
  installed : Bool
  observedBad : Bool

inductive TokenEvent (Token : Type) where
  | performPull
  | pullMessages (now : ℚ)
  | pushAckIds (now : ℚ)
  | acquire (k : ℕ) (now later : ℚ)
  | createRaised (k : ℕ)
  | created (k : ℕ) (tokenInfo : TokenInfo Token) (now later : ℚ)
  | response (k : ℕ) (status : ℕ)
  | requestFailed (k : ℕ)

namespace TokenState

def init (apiToken : Token) (tokenExpiresAt : ℚ) : TokenState Token where
  client := ⟨apiToken, tokenExpiresAt, false⟩
  refreshLock := none
  tasks := []
  installed := false
  observedBad := false

def raiseFlag (s : TokenState Token) : TokenState Token :=
  { s with client := { s.client with updateGcpClientInTheNextLoop := true } }

def resetFlag (s : TokenState Token) : TokenState Token :=
  { s with client := { s.client with updateGcpClientInTheNextLoop := false } }

def observe (s : TokenState Token) (now : ℚ) : TokenState Token :=
  { s with observedBad := s.observedBad || s.client.isTokenExpired now }

def spawn (s : TokenState Token) (task : TaskPhase Token) : TokenState Token :=
  { s with tasks := s.tasks ++ [task] }

def become (s : TokenState Token) (k : ℕ) (task : TaskPhase Token) : TokenState Token :=
  { s with tasks := s.tasks.set k task }

def refreshReturned (s : TokenState Token) (k : ℕ) (later : ℚ) : RefreshCaller → TokenState Token
  | .performPull => s.become k .ended
  | .pushAckIds => (s.observe later).become k (.requesting s.client.apiToken)

def refreshRaised (s : TokenState Token) (k : ℕ) : RefreshCaller → TokenState Token
  | .performPull => s.resetFlag.become k .ended
  | .pushAckIds => s.become k .ended

def acquire (s : TokenState Token) (k : ℕ) (caller : RefreshCaller) (now later : ℚ) :
    TokenState Token :=
  if !s.client.isTokenExpired now && !s.client.updateGcpClientInTheNextLoop then
    s.refreshReturned k later caller
  else { (s.observe now).become k (.creating caller) with refreshLock := some k }

def created (s : TokenState Token) (k : ℕ) (caller : RefreshCaller) (tokenInfo : TokenInfo Token)
    (now later : ℚ) : TokenState Token :=
  let (client, updated) := s.client.updateToken tokenInfo now
  if updated then
    { s with
      client, refreshLock := none, installed := true, observedBad := false }.refreshReturned k later
        caller
  else { s with client, refreshLock := none }.refreshRaised k caller

variable [DecidableEq Token]

def respond (s : TokenState Token) (k : ℕ) (sent : Token) (status : ℕ) : TokenState Token :=
  if status = 401 then
    -- the flag is raised whichever token the request was sent with
    { s with observedBad := s.observedBad || decide (sent = s.client.apiToken) }.raiseFlag.become k
      .ended
  else s.become k .ended

def step (s : TokenState Token) : TokenEvent Token → Option (TokenState Token)
  | .performPull =>
    some (if s.client.updateGcpClientInTheNextLoop then s.spawn (.refreshing .performPull) else s)
  | .pullMessages now =>
    -- an expired token is sent all the same, and refreshed before the next pull
    let observed := if s.client.isTokenExpired now then (s.observe now).raiseFlag else s
    some (observed.spawn (.requesting s.client.apiToken))
  | .pushAckIds now =>
    some (if s.client.isTokenExpired now then (s.observe now).spawn (.refreshing .pushAckIds)
      else s.spawn (.requesting s.client.apiToken))
  | .acquire k now later =>
    match s.refreshLock, s.tasks[k]? with
    | none, some (.refreshing caller) => some (s.acquire k caller now later)
    | _, _ => none
  | .createRaised k =>
    match s.tasks[k]? with
    | some (.creating caller) =>
      if s.refreshLock = some k then some ({ s with refreshLock := none }.refreshRaised k caller)
      else none
    | _ => none
  | .created k tokenInfo now later =>
    match s.tasks[k]? with
    | some (.creating caller) =>
      if s.refreshLock = some k then some (s.created k caller tokenInfo now later) else none
    | _ => none
  | .response k status =>
    match s.tasks[k]? with
    | some (.requesting sent) => some (s.respond k sent status)
    | _ => none
  | .requestFailed k =>
    match s.tasks[k]? with
    | some (.requesting _) => some (s.become k .ended)
    | _ => none

end TokenState

def tokenSystem [DecidableEq Token] (apiToken : Token) (tokenExpiresAt : ℚ) :
    System (TokenState Token) (TokenEvent Token) where
  init := .init apiToken tokenExpiresAt
  step := TokenState.step

def ReplacedOnlyBad [DecidableEq Token] (s : TokenState Token) (e : TokenEvent Token) : Prop :=
  ∀ k tokenInfo now later, e = .created k tokenInfo now later → (s.step e).isSome = true →
    (s.client.updateToken tokenInfo now).2 = true → s.installed = true → s.observedBad = true

/-- A 401 answers a request that was sent with the token of the moment, or that token is known to be
bad already. -/
def TimelyRefusal (s : TokenState Token) (e : TokenEvent Token) : Prop :=
  ∀ k sent, e = .response k 401 → s.tasks[k]? = some (.requesting sent) →
    sent = s.client.apiToken ∨ s.observedBad = true

structure Warranted (s : TokenState Token) : Prop where
  flag : s.client.updateGcpClientInTheNextLoop = true → s.observedBad = true
  lock : s.refreshLock ≠ none → s.observedBad = true

section

variable {s t : TokenState Token} {e : TokenEvent Token}

theorem flag_of_updateToken {client : GCPClient Token} {tokenInfo : TokenInfo Token} {now : ℚ}
    (h : (client.updateToken tokenInfo now).2 = true) :
    (client.updateToken tokenInfo now).1.updateGcpClientInTheNextLoop = false := by
  cases tokenInfo with
  | text token => rfl
  | dict accessToken expiresAt =>
    cases accessToken with
    | none => cases h
    | some token => rfl
  | other => cases h

namespace Warranted

theorem of_observedBad (h : s.observedBad = true) : Warranted s := ⟨fun _ => h, fun _ => h⟩

theorem observe (h : Warranted s) (now : ℚ) : Warranted (s.observe now) where
  flag := by
    intro hflag
    simp [TokenState.observe, h.flag hflag]
  lock := by
    intro hlock
    simp [TokenState.observe, h.lock hlock]

theorem refreshReturned (h : Warranted s) (k : ℕ) (later : ℚ) (caller : RefreshCaller) :
    Warranted (s.refreshReturned k later caller) := by
  cases caller with
  | performPull => exact ⟨h.flag, h.lock⟩
  | pushAckIds => exact ⟨(h.observe later).flag, (h.observe later).lock⟩

theorem refreshRaised (h : Warranted s) (k : ℕ) (caller : RefreshCaller) :
    Warranted (s.refreshRaised k caller) := by
  cases caller with
  | performPull =>
    have hflag : (s.refreshRaised k .performPull).client.updateGcpClientInTheNextLoop = false := rfl
    exact ⟨by simp [hflag], h.lock⟩
  | pushAckIds => exact ⟨h.flag, h.lock⟩

theorem acquire (h : Warranted s) (k : ℕ) (caller : RefreshCaller) (now later : ℚ) :
    Warranted (s.acquire k caller now later) := by
  rw [TokenState.acquire]
  split_ifs with hgood
  · exact h.refreshReturned k later caller
  · -- the refresh goes on for an expired token, or for a flag that speaks of a bad one
    apply of_observedBad
    change (s.observedBad || s.client.isTokenExpired now) = true
    cases hexpired : s.client.isTokenExpired now with
    | true => simp
    | false =>
      cases hflag : s.client.updateGcpClientInTheNextLoop with
      | true => simp [h.flag hflag]
      | false => simp [hexpired, hflag] at hgood

theorem created (h : Warranted s) {k : ℕ} (hlock : s.refreshLock = some k) (caller : RefreshCaller)
    (tokenInfo : TokenInfo Token) (now later : ℚ) :
    Warranted (s.created k caller tokenInfo now later) := by
  rw [TokenState.created]
  cases hupdate : s.client.updateToken tokenInfo now with
  | mk client updated =>
    cases updated with
    | true =>
      have hflag : client.updateGcpClientInTheNextLoop = false := by
        have := flag_of_updateToken (congrArg Prod.snd hupdate)
        rwa [hupdate] at this
      have hnew : Warranted { s with
          client, refreshLock := none, installed := true, observedBad := false } :=
        ⟨by simp [hflag], by simp⟩
      exact hnew.refreshReturned k later caller
    | false =>
      have hbad : s.observedBad = true := h.lock (by simp [hlock])
      have hkept : Warranted { s with client, refreshLock := none } := of_observedBad hbad
      exact hkept.refreshRaised k caller

variable [DecidableEq Token]

theorem respond (h : Warranted s) {k : ℕ} {sent : Token} {status : ℕ}
    (htimely : status = 401 → sent = s.client.apiToken ∨ s.observedBad = true) :
    Warranted (s.respond k sent status) := by
  rw [TokenState.respond]
  split_ifs with hstatus
  · apply of_observedBad
    change (s.observedBad || decide (sent = s.client.apiToken)) = true
    rcases htimely hstatus with hsent | hbad
    · simp [hsent]
    · simp [hbad]
  · exact ⟨h.flag, h.lock⟩

theorem step (h : Warranted s) (htimely : TimelyRefusal s e) (hstep : s.step e = some t) :
    Warranted t := by
  cases e with
  | performPull =>
    cases hstep
    split_ifs
    · exact ⟨h.flag, h.lock⟩
    · exact h
  | pullMessages now =>
    cases hstep
    split_ifs with hexpired
    · apply of_observedBad
      change (s.observedBad || s.client.isTokenExpired now) = true
      simp [hexpired]
    · exact ⟨h.flag, h.lock⟩
  | pushAckIds now =>
    cases hstep
    split_ifs
    · exact ⟨(h.observe now).flag, (h.observe now).lock⟩
    · exact ⟨h.flag, h.lock⟩
  | acquire k now later =>
    simp only [TokenState.step] at hstep
    split at hstep <;> cases hstep
    exact h.acquire k _ now later
  | createRaised k =>
    simp only [TokenState.step] at hstep
    split at hstep
    · obtain ⟨-, hstep⟩ := Option.ite_none_right_eq_some.mp hstep
      cases hstep
      have hreleased : Warranted { s with refreshLock := none } := ⟨h.flag, by simp⟩
      exact hreleased.refreshRaised k _
    · cases hstep
  | created k tokenInfo now later =>
    simp only [TokenState.step] at hstep
    split at hstep
    · obtain ⟨hlock, hstep⟩ := Option.ite_none_right_eq_some.mp hstep
      cases hstep
      exact h.created hlock _ tokenInfo now later
    · cases hstep
  | response k status =>
    simp only [TokenState.step] at hstep
    split at hstep
    · next sent htask =>
      cases hstep
      apply h.respond
      rintro rfl
      exact htimely k sent rfl htask
    · cases hstep
  | requestFailed k =>
    simp only [TokenState.step] at hstep
    split at hstep <;> cases hstep
    exact ⟨h.flag, h.lock⟩

theorem replacedOnlyBad (h : Warranted s) : ReplacedOnlyBad s e := by
  rintro k tokenInfo now later rfl hstep - -
  obtain ⟨t, hstep⟩ := Option.isSome_iff_exists.mp hstep
  simp only [TokenState.step] at hstep
  split at hstep
  · obtain ⟨hlock, -⟩ := Option.ite_none_right_eq_some.mp hstep
    exact h.lock (by simp [hlock])
  · cases hstep

end Warranted

variable [DecidableEq Token]

theorem warranted_of_run (apiToken : Token) (tokenExpiresAt : ℚ) :
    ∀ trace s, (tokenSystem apiToken tokenExpiresAt).run trace = some s →
      (tokenSystem apiToken tokenExpiresAt).Along TimelyRefusal trace → Warranted s := by
  apply (tokenSystem apiToken tokenExpiresAt).trace_invariant
    (fun trace s => (tokenSystem apiToken tokenExpiresAt).Along TimelyRefusal trace → Warranted s)
  · intro _
    exact ⟨by simp [tokenSystem, TokenState.init], by simp [tokenSystem, TokenState.init]⟩
  · intro trace s e t hrun ih hstep htimely
    obtain ⟨hbefore, hlast⟩ := (System.along_snoc _).mp htimely
    exact (ih hbefore).step (hlast s hrun) hstep

theorem refreshed_once_per_bad_token (apiToken : Token) (tokenExpiresAt : ℚ)
    {trace : List (TokenEvent Token)}
    (htimely : (tokenSystem apiToken tokenExpiresAt).Along TimelyRefusal trace) :
    (tokenSystem apiToken tokenExpiresAt).Along ReplacedOnlyBad trace := by
  rintro before e rest s rfl hrun
  refine (warranted_of_run apiToken tokenExpiresAt before s hrun ?_).replacedOnlyBad
  rintro first e' rest' s' rfl hrun'
  exact htimely first e' (rest' ++ e :: rest) s' (by simp) hrun'

end

def slowRefusal : List (TokenEvent ℕ) :=
  [.pullMessages 10, .pullMessages 200, .performPull, .acquire 2 200 200,
    .created 2 (.dict (some 2) (some 3000)) 201 201, .response 0 401, .performPull,
    .acquire 3 202 202]

theorem good_token_refreshed_after_slow_refusal :
    ¬ ∀ (apiToken : ℕ) (tokenExpiresAt : ℚ) (trace : List (TokenEvent ℕ)),
      (tokenSystem apiToken tokenExpiresAt).Along ReplacedOnlyBad trace := by
  intro hclaim
  have hfinal : ((tokenSystem 1 100).run slowRefusal).any (fun s =>
      (s.step (.created 3 (.dict (some 3) (some 4000)) 203 203)).isSome &&
        (s.installed && !s.observedBad)) = true := by
    decide +kernel
  obtain ⟨s, hrun, hs⟩ := (Option.any_eq_true _ _).mp hfinal
  obtain ⟨hstep, hs⟩ := Bool.and_eq_true_iff.mp hs
  obtain ⟨hinstalled, hgood⟩ := Bool.and_eq_true_iff.mp hs
  have hbad := hclaim 1 100 (slowRefusal ++ [.created 3 (.dict (some 3) (some 4000)) 203 203])
    slowRefusal _ [] s rfl hrun 3 _ 203 203 rfl hstep rfl hinstalled
  rw [hbad] at hgood
  cases hgood

def refusedOnce : List (TokenEvent ℕ) :=
  [.pullMessages 10, .response 0 401, .performPull, .acquire 1 20 20,
    .created 1 (.dict (some 2) (some 3000)) 21 21]

theorem along_timelyRefusal_refusedOnce :
    (tokenSystem 1 100).Along TimelyRefusal refusedOnce := by
  have hother : ∀ (trace : List (TokenEvent ℕ)) (e : TokenEvent ℕ),
      (tokenSystem 1 100).Along TimelyRefusal trace → (∀ k, e ≠ .response k 401) →
        (tokenSystem 1 100).Along TimelyRefusal (trace ++ [e]) := by
    intro trace e halong he
    refine (System.along_snoc _).mpr ⟨halong, ?_⟩
    intro s _ k _ hresponse
    exact absurd hresponse (he k)
  have hsent := hother [] (.pullMessages 10) (System.along_nil _) (by simp)
  have hrefused : (tokenSystem 1 100).Along TimelyRefusal
      (([] ++ [TokenEvent.pullMessages 10]) ++ [.response 0 401]) := by
    refine (System.along_snoc _).mpr ⟨hsent, ?_⟩
    rintro s hs k sent hresponse htask
    cases hs
    cases hresponse
    cases htask
    exact .inl rfl
  have hpulled := hother _ .performPull hrefused (by simp)
  have hacquired := hother _ (.acquire 1 20 20) hpulled (by simp)
  exact hother _ (.created 1 (.dict (some 2) (some 3000)) 21 21) hacquired (by simp)

theorem refreshed_once_per_bad_token_refused :
    ∃ s, (tokenSystem 1 100).run refusedOnce = some s ∧ s.client.apiToken = 2 ∧
      (tokenSystem 1 100).Along ReplacedOnlyBad refusedOnce := by
  have hfinal : ((tokenSystem 1 100).run refusedOnce).any (fun s => s.client.apiToken = 2) =
      true := by
    decide +kernel
  obtain ⟨s, hrun, hs⟩ := (Option.any_eq_true _ _).mp hfinal
  exact ⟨s, hrun, of_decide_eq_true hs,
    refreshed_once_per_bad_token 1 100 along_timelyRefusal_refusedOnce⟩

end GcpMonitor.Logs
