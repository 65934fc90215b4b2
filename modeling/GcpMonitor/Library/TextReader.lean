import Mathlib.Data.List.Basic

namespace GcpMonitor.TextReader

variable {α β γ : Type}

abbrev Reader (α β : Type) := List α → Option (β × List α)

/-- The reader gives back what the text was written for, whatever comes after it as long as the
text may stop there. -/
def Reads (reader : Reader α β) (stop : List α → Prop) (text : List α) (value : β) : Prop :=
  ∀ rest, stop rest → reader (text ++ rest) = some (value, rest)

theorem Reads.mono {reader : Reader α β} {stop stop' : List α → Prop} {text : List α} {value : β}
    (h : Reads reader stop text value) (hstop : ∀ rest, stop' rest → stop rest) :
    Reads reader stop' text value := by
  intro rest hrest
  exact h rest (hstop rest hrest)

section TakeWhile

variable {p : α → Bool} {text rest : List α}

def EndsRun (p : α → Bool) (rest : List α) : Prop := ∀ c ∈ rest.head?, p c = false

theorem endsRun_nil : EndsRun p [] := by
  intro c hc
  contradiction

theorem endsRun_cons {c : α} (h : p c = false) (rest : List α) : EndsRun p (c :: rest) := by
  intro d hd
  cases hd
  exact h

theorem takeWhile_run (htext : ∀ c ∈ text, p c = true) (hrest : EndsRun p rest) :
    (text ++ rest).takeWhile p = text := by
  rw [List.takeWhile_append_of_pos htext]
  cases rest with
  | nil => simp
  | cons c rest => simp [hrest c rfl]

theorem dropWhile_run (htext : ∀ c ∈ text, p c = true) (hrest : EndsRun p rest) :
    (text ++ rest).dropWhile p = rest := by
  rw [List.dropWhile_append_of_pos htext]
  cases rest with
  | nil => simp
  | cons c rest => simp [hrest c rfl]

end TakeWhile

section Intercalate

variable {glue : List α} {texts : List (List α)}

theorem intercalate_cons_cons (glue text next : List α) (texts : List (List α)) :
    glue.intercalate (text :: next :: texts) =
      text ++ glue ++ glue.intercalate (next :: texts) := by
  simp [List.intercalate, List.intersperse]

theorem intercalate_singleton (glue text : List α) : glue.intercalate [text] = text := by
  simp [List.intercalate]

theorem length_le_intercalate {text : List α} (h : text ∈ texts) :
    text.length ≤ (glue.intercalate texts).length := by
  induction texts with
  | nil => contradiction
  | cons first texts ih =>
    cases texts with
    | nil =>
      rw [List.mem_singleton.mp h]
      exact Nat.le_of_eq (congrArg List.length (intercalate_singleton glue first)).symm
    | cons next texts =>
      rw [intercalate_cons_cons, List.length_append, List.length_append]
      obtain rfl | h := List.mem_cons.mp h
      · omega
      · have hle := ih h
        omega

theorem count_le_intercalate (h : ∀ text ∈ texts, text ≠ []) :
    texts.length ≤ (glue.intercalate texts).length := by
  induction texts with
  | nil => exact Nat.zero_le _
  | cons first texts ih =>
    have hfirst := List.length_pos_iff.mpr (h first List.mem_cons_self)
    cases texts with
    | nil =>
      rw [intercalate_singleton]
      exact hfirst
    | cons next texts =>
      have hrest := ih (fun text htext => h text (List.mem_cons_of_mem _ htext))
      rw [intercalate_cons_cons, List.length_append, List.length_append, List.length_cons]
      omega

end Intercalate

section Many

def readMany (item : Reader α β) : ℕ → Reader α (List β)
  | 0, text => some ([], text)
  | n + 1, text =>
    match item text with
    | none => some ([], text)
    | some (value, rest) =>
      (readMany item n rest).map (fun (values, rest) => (value :: values, rest))

theorem reads_many {item : Reader α β} {texts : List (List α)} {values : List β}
    (h : List.Forall₂ (Reads item (fun _ => True)) texts values) {n : ℕ} (hn : texts.length ≤ n) :
    Reads (readMany item n) (fun rest => item rest = none) texts.flatten values := by
  intro rest hrest
  induction h generalizing n with
  | nil =>
    rw [List.flatten_nil, List.nil_append]
    cases n with
    | zero => rfl
    | succ n => rw [readMany, hrest]
  | @cons text value texts values hitem _ ih =>
    obtain ⟨n, rfl⟩ : ∃ m, n = m + 1 := ⟨n - 1, by rw [List.length_cons] at hn; omega⟩
    have hmany := ih (n := n) (by rw [List.length_cons] at hn; omega)
    rw [List.flatten_cons, List.append_assoc, readMany, hitem _ trivial]
    simp only [hmany, Option.map_some]

end Many

section Delimited

variable [DecidableEq α] (space : α → Bool) (separator close : α)

/-- Items with a separator between them, up to the mark that closes them; blanks may stand before
the separator, after it and before the mark. -/
def readItems (item : Reader α β) : ℕ → Reader α (List β)
  | 0, _ => none
  | n + 1, text =>
    match item text with
    | none => none
    | some (value, rest) =>
      match rest.dropWhile space with
      | [] => none
      | c :: rest =>
        if c = close then some ([value], rest)
        else if c = separator then
          (readItems item n (rest.dropWhile space)).map
            (fun (values, rest) => (value :: values, rest))
        else none

def readDelimited (item : Reader α β) (n : ℕ) : Reader α (List β) := fun text =>
  match text.dropWhile space with
  | [] => none
  | c :: rest =>
    if c = close then some ([], rest) else readItems space separator close item n (c :: rest)

variable {space separator close}

def EndsItem (space : α → Bool) (separator close : α) (rest : List α) : Prop :=
  ∃ c tail, rest = c :: tail ∧ (space c = true ∨ c = separator ∨ c = close)

structure WritesItem (space : α → Bool) (separator close : α) (item : Reader α β)
    (text : List α) (value : β) : Prop where
  reads : Reads item (EndsItem space separator close) text value
  starts : ∃ c tail, text = c :: tail ∧ space c = false ∧ c ≠ close

theorem reads_items {item : Reader α β} {blanks : List α} (hseparator : space separator = false)
    (hclose : space close = false) (hne : separator ≠ close)
    (hblanks : ∀ c ∈ blanks, space c = true) {texts : List (List α)} {values : List β}
    (h : List.Forall₂ (WritesItem space separator close item) texts values) (hnil : texts ≠ [])
    {n : ℕ} (hn : texts.length ≤ n) (rest : List α) :
    readItems space separator close item n
      ((separator :: blanks).intercalate texts ++ close :: rest) = some (values, rest) := by
  induction h generalizing n with
  | nil => contradiction
  | @cons text value texts values hitem htexts ih =>
    obtain ⟨n, rfl⟩ : ∃ m, n = m + 1 := ⟨n - 1, by rw [List.length_cons] at hn; omega⟩
    cases htexts with
    | nil =>
      rw [intercalate_singleton, readItems, hitem.reads _ ⟨close, rest, rfl, .inr (.inr rfl)⟩]
      simp [hclose]
    | @cons next value' texts values' hnext htexts =>
      obtain ⟨c, tail, hc, hspace, -⟩ := hnext.starts
      have hrest := ih (List.cons_ne_nil _ _) (n := n) (by rw [List.length_cons] at hn; omega)
      rw [intercalate_cons_cons, List.append_assoc, List.append_assoc, List.cons_append, readItems,
        hitem.reads _ ⟨separator, _, rfl, .inr (.inl rfl)⟩]
      have hdrop : (blanks ++ ((separator :: blanks).intercalate (next :: texts) ++
          close :: rest)).dropWhile space =
            (separator :: blanks).intercalate (next :: texts) ++ close :: rest := by
        apply dropWhile_run hblanks
        cases texts with
        | nil =>
          rw [intercalate_singleton, hc]
          exact endsRun_cons hspace _
        | cons other texts =>
          rw [intercalate_cons_cons, hc]
          exact endsRun_cons hspace _
      simp only [List.dropWhile_cons, hseparator, Bool.false_eq_true, if_false,
        hne, if_true]
      rw [hdrop, hrest]
      rfl

theorem reads_delimited {item : Reader α β} {blanks : List α} (hseparator : space separator = false)
    (hclose : space close = false) (hne : separator ≠ close)
    (hblanks : ∀ c ∈ blanks, space c = true) {texts : List (List α)} {values : List β}
    (h : List.Forall₂ (WritesItem space separator close item) texts values)
    {n : ℕ} (hn : texts.length ≤ n) (rest : List α) :
    readDelimited space separator close item n
      ((separator :: blanks).intercalate texts ++ close :: rest) = some (values, rest) := by
  cases h with
  | nil =>
    have hempty : (separator :: blanks).intercalate ([] : List (List α)) = [] := rfl
    rw [hempty, readDelimited]
    simp [hclose]
  | @cons text value texts values hitem htexts =>
    have hitems := reads_items hseparator hclose hne hblanks (.cons hitem htexts)
      (List.cons_ne_nil _ _) hn rest
    obtain ⟨c, tail, hc, hspace, hother⟩ := hitem.starts
    obtain ⟨tail', htail'⟩ : ∃ tail',
        (separator :: blanks).intercalate (text :: texts) ++ close :: rest = c :: tail' := by
      cases texts with
      | nil => exact ⟨_, by rw [intercalate_singleton, hc]; rfl⟩
      | cons next texts => exact ⟨_, by rw [intercalate_cons_cons, hc]; rfl⟩
    rw [htail'] at hitems ⊢
    rw [readDelimited, List.dropWhile_cons_of_neg (by simp [hspace])]
    dsimp only
    rw [if_neg hother]
    exact hitems

def Gives (reader : Reader α β) (P : β → Prop) : Prop :=
  ∀ text value rest, reader text = some (value, rest) → P value

theorem Gives.items {item : Reader α β} {P : β → Prop} (h : Gives item P) (n : ℕ) :
    Gives (readItems space separator close item n) (fun values => ∀ value ∈ values, P value) := by
  induction n with
  | zero =>
    intro text values rest hread
    contradiction
  | succ n ih =>
    intro text values rest hread
    rw [readItems] at hread
    cases hitem : item text with
    | none =>
      rw [hitem] at hread
      contradiction
    | some result =>
      obtain ⟨value, rest'⟩ := result
      have hvalue := h text value rest' hitem
      simp only [hitem] at hread
      split at hread
      · contradiction
      · split_ifs at hread
        · cases hread
          simpa using hvalue
        · obtain ⟨⟨values', rest''⟩, hrest, heq⟩ := Option.map_eq_some_iff.mp hread
          cases heq
          exact List.forall_mem_cons.mpr ⟨hvalue, ih _ _ _ hrest⟩

theorem Gives.delimited {item : Reader α β} {P : β → Prop} (h : Gives item P) (n : ℕ) :
    Gives (readDelimited space separator close item n)
      (fun values => ∀ value ∈ values, P value) := by
  intro text values rest hread
  rw [readDelimited] at hread
  split at hread
  · contradiction
  · split_ifs at hread
    · cases hread
      simp
    · exact h.items n _ _ _ hread

end Delimited

end GcpMonitor.TextReader
