import Mathlib.Data.List.Basic
import Mathlib.Logic.Function.Basic

namespace GcpMonitor.Reconciliation

variable {κ ν : Type}

inductive Request (κ : Type) where
  | remove (key : κ)
  | write (key : κ)

def Request.key : Request κ → κ
  | .remove key => key
  | .write key => key

/-- A store that several parties bring into shape, and the requests that each has still to make. -/
structure State (κ ν : Type) where
  store : κ → Option ν
  agendas : List (List (Request κ))

def Restoring (agenda : List (Request κ)) : Prop :=
  ∀ before key after, agenda = before ++ .remove key :: after → .write key ∈ after

theorem restoring_nil : Restoring ([] : List (Request κ)) := by
  intro before key after h
  simp at h

theorem restoring_cons {request : Request κ} {agenda : List (Request κ)} :
    Restoring (request :: agenda) ↔
      (∀ key, request = .remove key → .write key ∈ agenda) ∧ Restoring agenda := by
  constructor
  · intro h
    constructor
    · rintro key rfl
      exact h [] key agenda rfl
    · rintro before key after rfl
      exact h (request :: before) key after rfl
  · rintro ⟨hfirst, hrest⟩ before key after h
    cases before with
    | nil =>
      obtain ⟨rfl, rfl⟩ := List.cons.inj h
      exact hfirst key rfl
    | cons other before => exact hrest before key after (List.cons.inj h).2

theorem restoring_write {key : κ} : Restoring [Request.write key] :=
  restoring_cons.mpr ⟨by simp, restoring_nil⟩

theorem restoring_replace {key : κ} : Restoring [Request.remove key, Request.write key] :=
  restoring_cons.mpr ⟨by simp, restoring_write⟩

theorem Restoring.append {first second : List (Request κ)} (hfirst : Restoring first)
    (hsecond : Restoring second) : Restoring (first ++ second) := by
  intro before key after h
  rcases List.append_eq_append_iff.mp h with ⟨between, rfl, hrest⟩ | ⟨between, rfl, hrest⟩
  · exact hsecond between key after hrest
  · cases between with
    | nil => exact hsecond [] key after hrest.symm
    | cons request between =>
      obtain ⟨rfl, rfl⟩ := List.cons.inj hrest
      exact List.mem_append_left _ (hfirst before key between rfl)

theorem restoring_flatMap {α : Type} {f : α → List (Request κ)} {xs : List α}
    (h : ∀ x ∈ xs, Restoring (f x)) : Restoring (xs.flatMap f) := by
  induction xs with
  | nil => exact restoring_nil
  | cons x xs ih =>
    rw [List.flatMap_cons]
    exact (h x List.mem_cons_self).append (ih (fun y hy => h y (List.mem_cons_of_mem _ hy)))

section

variable (acceptable : κ → ν → Prop)

def Holds (store : κ → Option ν) (key : κ) : Prop :=
  ∃ value, store key = some value ∧ acceptable key value

structure Plans (keys : κ → Prop) (store : κ → Option ν) (agenda : List (Request κ)) : Prop where
  restoring : Restoring agenda
  covers : ∀ key, keys key → Holds acceptable store key ∨ .write key ∈ agenda

/-- One step of the parties, with the keys of which it takes a write off an agenda. A request may
leave anything behind under its own key; somebody else writes only where nothing is. -/
inductive Move [DecidableEq κ] (s : State κ ν) : State κ ν → (κ → Prop) → Prop where
  | look {i : ℕ} {agenda : List (Request κ)} (hidle : s.agendas[i]? = some [])
      (hrestoring : Restoring agenda) :
      Move s { s with agendas := s.agendas.set i agenda } (fun _ => False)
  | request {i : ℕ} {request : Request κ} {rest : List (Request κ)} (content : Option ν)
      (hnext : s.agendas[i]? = some (request :: rest)) :
      Move s ⟨Function.update s.store request.key content, s.agendas.set i rest⟩
        (fun key => request = .write key)
  | abandon {i : ℕ} {request : Request κ} {rest : List (Request κ)} (content : Option ν)
      (hnext : s.agendas[i]? = some (request :: rest)) :
      Move s ⟨Function.update s.store request.key content, s.agendas.set i []⟩
        (fun key => .write key ∈ request :: rest)
  | foreign {key : κ} (value : ν) (habsent : s.store key = none) :
      Move s { s with store := Function.update s.store key (some value) } (fun _ => False)
  | idle : Move s s (fun _ => False)

def Settled (s : State κ ν) (key : κ) : Prop :=
  Holds acceptable s.store key ∨ ∃ agenda ∈ s.agendas, .write key ∈ agenda

variable {acceptable} {keys : κ → Prop} {s t : State κ ν} {taken : κ → Prop}
  {key : κ}

theorem Move.restoring [DecidableEq κ] (h : Move s t taken)
    (hs : ∀ agenda ∈ s.agendas, Restoring agenda) : ∀ agenda ∈ t.agendas, Restoring agenda := by
  have hset : ∀ (i : ℕ) (agenda : List (Request κ)), Restoring agenda →
      ∀ other ∈ s.agendas.set i agenda, Restoring other := by
    intro i agenda hagenda other hother
    rcases List.mem_or_eq_of_mem_set hother with hother | rfl
    · exact hs other hother
    · exact hagenda
  cases h with
  | look hidle hagenda => exact hset _ _ hagenda
  | request content hnext =>
    exact hset _ _ (restoring_cons.mp (hs _ (List.mem_of_getElem? hnext))).2
  | abandon content hnext => exact hset _ _ restoring_nil
  | foreign value habsent => exact hs
  | idle => exact hs

theorem Holds.update_of_ne [DecidableEq κ] {store : κ → Option ν}
    (h : Holds acceptable store key) {other : κ} (hne : key ≠ other) (content : Option ν) :
    Holds acceptable (Function.update store other content) key := by
  obtain ⟨value, hvalue, hacceptable⟩ := h
  exact ⟨value, by rw [Function.update_of_ne hne, hvalue], hacceptable⟩

theorem exists_mem_set_of_ne {i j : ℕ} {agendas : List (List (Request κ))}
    {agenda agenda' : List (Request κ)} {request : Request κ} (hj : agendas[j]? = some agenda)
    (hmem : request ∈ agenda) (hne : i ≠ j) :
    ∃ other ∈ agendas.set i agenda', request ∈ other := by
  refine ⟨agenda, List.mem_of_getElem? (i := j) ?_, hmem⟩
  rw [List.getElem?_set_ne hne, hj]

theorem Move.settled [DecidableEq κ] (h : Move s t taken)
    (hrestoring : ∀ agenda ∈ s.agendas, Restoring agenda)
    (htaken : taken key → Holds acceptable t.store key) (hs : Settled acceptable s key) :
    Settled acceptable t key := by
  by_cases ht : Holds acceptable t.store key
  · exact .inl ht
  have hkept : ¬ taken key := fun hkey => ht (htaken hkey)
  cases h with
  | look hidle hagenda =>
    rcases hs with hs | ⟨agenda, hagenda, hwrite⟩
    · exact absurd hs ht
    · obtain ⟨j, hj⟩ := List.mem_iff_getElem?.mp hagenda
      refine .inr (exists_mem_set_of_ne hj hwrite ?_)
      rintro rfl
      rw [hidle, Option.some.injEq] at hj
      rw [← hj] at hwrite
      exact absurd hwrite List.not_mem_nil
  | @request i request rest content hnext =>
    have hrest : .write key ∈ rest → Settled acceptable
        ⟨Function.update s.store request.key content, s.agendas.set i rest⟩ key := by
      intro hwrite
      refine .inr ⟨rest, List.mem_of_getElem? (i := i) ?_, hwrite⟩
      exact List.getElem?_set_self (List.getElem?_eq_some_iff.mp hnext).1
    rcases hs with hs | ⟨agenda, hagenda, hwrite⟩
    · have hkey : key = request.key := by
        by_contra hne
        exact ht (hs.update_of_ne hne content)
      cases request with
      | remove other =>
        obtain rfl : key = other := hkey
        exact hrest ((restoring_cons.mp (hrestoring _ (List.mem_of_getElem? hnext))).1 key rfl)
      | write other =>
        obtain rfl : key = other := hkey
        exact absurd rfl hkept
    · obtain ⟨j, hj⟩ := List.mem_iff_getElem?.mp hagenda
      by_cases hij : i = j
      · subst hij
        rw [hnext, Option.some.injEq] at hj
        rw [← hj] at hwrite
        exact hrest ((List.mem_cons.mp hwrite).resolve_left (Ne.symm hkept))
      · exact .inr (exists_mem_set_of_ne hj hwrite hij)
  | @abandon i request rest content hnext =>
    rcases hs with hs | ⟨agenda, hagenda, hmem⟩
    · have hkey : key = request.key := by
        by_contra hne
        exact ht (hs.update_of_ne hne content)
      cases request with
      | remove other =>
        obtain rfl : key = other := hkey
        have hwrite := (restoring_cons.mp (hrestoring _ (List.mem_of_getElem? hnext))).1 key rfl
        exact absurd (List.mem_cons_of_mem _ hwrite) hkept
      | write other =>
        obtain rfl : key = other := hkey
        exact absurd List.mem_cons_self hkept
    · obtain ⟨j, hj⟩ := List.mem_iff_getElem?.mp hagenda
      refine .inr (exists_mem_set_of_ne hj hmem ?_)
      rintro rfl
      rw [hnext, Option.some.injEq] at hj
      exact hkept (hj ▸ hmem)
  | @foreign key' value habsent =>
    rcases hs with ⟨other, hother, hacceptable⟩ | hs
    · by_cases hkey : key = key'
      · rw [hkey, habsent] at hother
        contradiction
      · exact absurd (Holds.update_of_ne ⟨other, hother, hacceptable⟩ hkey _) ht
    · exact .inr hs
  | idle => exact hs

theorem settled_of_look {i : ℕ} {agenda : List (Request κ)} (hidle : s.agendas[i]? = some [])
    (hplans : Plans acceptable keys s.store agenda) (hkey : keys key) :
    Settled acceptable { s with agendas := s.agendas.set i agenda } key := by
  rcases hplans.covers key hkey with hholds | hwrite
  · exact .inl hholds
  · right
    refine ⟨agenda, List.mem_of_getElem? (i := i) ?_, hwrite⟩
    exact List.getElem?_set_self (List.getElem?_eq_some_iff.mp hidle).1

end

end GcpMonitor.Reconciliation
