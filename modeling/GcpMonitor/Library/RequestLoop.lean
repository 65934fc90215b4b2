import Mathlib.Data.List.Basic
import Mathlib.Data.List.Chain

namespace GcpMonitor

/-- A loop that makes one request in each round: `step` goes on from another state or returns. -/
structure RequestLoop (State Request Answer Result : Type) where
  request : State → Request
  step : State → Answer → State ⊕ Result

namespace RequestLoop

variable {State Request Answer Result : Type} (loop : RequestLoop State Request Answer Result)
  (serve : Request → Answer)

def run : ℕ → State → Option (List Request × Result)
  | 0, _ => none
  | rounds + 1, state =>
    match loop.step state (serve (loop.request state)) with
    | .inr result => some ([loop.request state], result)
    | .inl next => (run rounds next).map (fun after => (loop.request state :: after.1, after.2))

def Returns (state : State) (requests : List Request) (result : Result) : Prop :=
  ∃ rounds, loop.run serve rounds state = some (requests, result)

variable {loop serve} {state next : State} {requests : List Request} {result : Result}

theorem returns_of_result
    (h : loop.step state (serve (loop.request state)) = .inr result) :
    loop.Returns serve state [loop.request state] result := by
  refine ⟨1, ?_⟩
  rw [run, h]

theorem returns_of_next (h : loop.step state (serve (loop.request state)) = .inl next)
    (hnext : loop.Returns serve next requests result) :
    loop.Returns serve state (loop.request state :: requests) result := by
  obtain ⟨rounds, hrun⟩ := hnext
  refine ⟨rounds + 1, ?_⟩
  simp only [run, h, hrun]
  rfl

theorem not_returns_of_closed {P : State → Prop}
    (hclosed : ∀ state, P state →
      ∃ next, loop.step state (serve (loop.request state)) = .inl next ∧ P next)
    (h : P state) : ¬ loop.Returns serve state requests result := by
  rintro ⟨rounds, hrun⟩
  induction rounds generalizing state requests with
  | zero => contradiction
  | succ rounds ih =>
    obtain ⟨next, hstep, hnext⟩ := hclosed state h
    rw [run, hstep] at hrun
    obtain ⟨⟨after, later⟩, hafter, heq⟩ := Option.map_eq_some_iff.mp hrun
    cases heq
    exact ih hnext hafter

end RequestLoop

section Paging

variable {Token Page : Type}

/-- A server that hands out pages: `reply` gives the page for the token of a request, if it has
one, and `nextToken` the token that a page holds, if it has one. -/
structure PageServer (Token Page : Type) where
  noToken : Token
  nextToken : Page → Option Token
  reply : Option Token → Page

namespace PageServer

variable (server : PageServer Token Page)

structure Serves (pages : List Page) : Prop where
  first : pages.head? = some (server.reply none)
  again : server.reply (some server.noToken) = server.reply none
  follows : pages.IsChain (fun page next =>
    ∃ token, token ≠ server.noToken ∧ server.nextToken page = some token ∧
      server.reply (some token) = next)
  last : ∀ page, pages.getLast? = some page →
    ∀ token, server.nextToken page = some token → token = server.noToken

variable {server} {pages : List Page}

theorem exists_next_of_mem {r : Page → Page → Prop} (h : pages.IsChain r) {page : Page}
    (hmem : page ∈ pages) : (∃ next ∈ pages, r page next) ∨ pages.getLast? = some page := by
  induction pages with
  | nil => exact absurd hmem List.not_mem_nil
  | cons first rest ih =>
    cases rest with
    | nil =>
      rw [List.mem_singleton.mp hmem]
      exact .inr rfl
    | cons second rest =>
      obtain ⟨hfirst, hrest⟩ := List.isChain_cons_cons.mp h
      rcases List.mem_cons.mp hmem with rfl | hmem
      · exact .inl ⟨second, by simp, hfirst⟩
      · rcases ih hrest hmem with ⟨next, hnext, hr⟩ | hlast
        · exact .inl ⟨next, List.mem_cons_of_mem _ hnext, hr⟩
        · right
          rw [List.getLast?_cons_cons]
          exact hlast

namespace Serves

variable (h : server.Serves pages)

include h

theorem first_mem : server.reply none ∈ pages := List.mem_of_mem_head? h.first

theorem reply_mem {page : Page} (hpage : page ∈ pages) {token : Token}
    (htoken : server.nextToken page = some token) : server.reply (some token) ∈ pages := by
  rcases exists_next_of_mem h.follows hpage with ⟨next, hnext, other, -, hother, hreply⟩ | hlast
  · rw [htoken, Option.some.injEq] at hother
    rw [hother, hreply]
    exact hnext
  · rw [h.last page hlast token htoken, h.again]
    exact h.first_mem

theorem exists_token {last : Page} (hlast : pages.getLast? = some last)
    (htoken : server.nextToken last ≠ none) {page : Page} (hpage : page ∈ pages) :
    ∃ token, server.nextToken page = some token := by
  rcases exists_next_of_mem h.follows hpage with ⟨-, -, token, -, htoken, -⟩ | hpageLast
  · exact ⟨token, htoken⟩
  · rw [hlast, Option.some.injEq] at hpageLast
    rw [← hpageLast]
    exact Option.ne_none_iff_exists'.mp htoken

end Serves

section Loop

variable {State Request Answer Result : Type} {loop : RequestLoop State Request Answer Result}
  {token : Request → Option Token} {answer : Page → Answer} {start : State}

def ReadInFull (server : PageServer Token Page) (loop : RequestLoop State Request Answer Result)
    (token : Request → Option Token) (answer : Page → Answer) (start : State) (pages : List Page)
    (result : Result) : Prop :=
  ∃ requests, loop.Returns (fun request => answer (server.reply (token request))) start requests
      result ∧
    requests.map (fun request => server.reply (token request)) = pages

theorem Serves.readInFull (h : server.Serves pages) (Reads : List Page → State → Prop)
    (result : List Page → Result) (hstart : Reads [] start)
    (hfirst : token (loop.request start) = none)
    (hnext : ∀ before page state next, Reads before state → page ∈ pages →
      server.nextToken page = some next → next ≠ server.noToken →
        ∃ after, loop.step state (answer page) = .inl after ∧ Reads (before ++ [page]) after ∧
          token (loop.request after) = some next)
    (hlast : ∀ before page state, Reads before state → pages.getLast? = some page →
      loop.step state (answer page) = .inr (result (before ++ [page]))) :
    ReadInFull server loop token answer start pages (result pages) := by
  have hrun : ∀ (rest before : List Page) (page : Page) (state : State),
      before ++ page :: rest = pages → Reads before state →
        server.reply (token (loop.request state)) = page →
          ∃ requests, loop.Returns (fun request => answer (server.reply (token request))) state
              requests (result pages) ∧
            requests.map (fun request => server.reply (token request)) = page :: rest := by
    intro rest
    induction rest with
    | nil =>
      intro before page state hpages hreads hreply
      have hgetLast : pages.getLast? = some page := by
        rw [← hpages, List.getLast?_append_cons, List.getLast?_singleton]
      have hstep := hlast before page state hreads hgetLast
      rw [hpages] at hstep
      refine ⟨_, RequestLoop.returns_of_result (by rw [hreply]; exact hstep), ?_⟩
      rw [List.map_singleton, hreply]
    | cons following rest ih =>
      intro before page state hpages hreads hreply
      have hmem : page ∈ pages := by
        rw [← hpages]
        simp
      have hchain : (page :: following :: rest).IsChain _ :=
        (hpages ▸ h.follows).right_of_append
      obtain ⟨next, hne, htoken, hfollowing⟩ := (List.isChain_cons_cons.mp hchain).1
      obtain ⟨after, hstep, hreadsAfter, hrequest⟩ :=
        hnext before page state next hreads hmem htoken hne
      obtain ⟨requests, hreturns, hpagesAfter⟩ := ih (before ++ [page]) following after
        (by simpa using hpages) hreadsAfter (by rw [hrequest, hfollowing])
      refine ⟨_, RequestLoop.returns_of_next (by rw [hreply]; exact hstep) hreturns, ?_⟩
      rw [List.map_cons, hreply, hpagesAfter]
  obtain ⟨rest, hpages⟩ := List.head?_eq_some_iff.mp h.first
  obtain ⟨requests, hreturns, hrequests⟩ :=
    hrun rest [] (server.reply none) start hpages.symm hstart (by rw [hfirst])
  exact ⟨requests, hreturns, hrequests.trans hpages.symm⟩

theorem Serves.not_readInFull (h : server.Serves pages) {last : Page}
    (hlast : pages.getLast? = some last) (htoken : server.nextToken last ≠ none)
    (hfirst : token (loop.request start) = none)
    (hstep : ∀ state page next, page ∈ pages → server.nextToken page = some next →
      ∃ after, loop.step state (answer page) = .inl after ∧
        (token (loop.request after) = some next ∨
          token (loop.request after) = token (loop.request state)))
    (result : Result) : ¬ ReadInFull server loop token answer start pages result := by
  rintro ⟨requests, hreturns, -⟩
  refine RequestLoop.not_returns_of_closed
    (P := fun state => server.reply (token (loop.request state)) ∈ pages) ?_ ?_ hreturns
  · intro state hmem
    obtain ⟨next, hnext⟩ := h.exists_token hlast htoken hmem
    obtain ⟨after, hafter, hrequest⟩ := hstep state _ next hmem hnext
    refine ⟨after, hafter, ?_⟩
    rcases hrequest with hrequest | hrequest
    · rw [hrequest]
      exact h.reply_mem hmem hnext
    · rw [hrequest]
      exact hmem
  · rw [hfirst]
    exact h.first_mem

end Loop

end PageServer

end Paging

end GcpMonitor
