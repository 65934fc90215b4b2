import GcpMonitor.Python.JsonDumps

namespace GcpMonitor.Python.Json

open TextReader

variable {R : PyRepr} {float : Text → PyFloat}

/-- What `float` makes of a number, `repr` writes so that `float` makes the same of it. -/
def FloatsReadBack (R : PyRepr) (float : Text → PyFloat) : Prop :=
  ∀ text q, IsFloat text → float text = .finite q → FloatKept R float q

theorem scanNumber_gives (hfloats : FloatsReadBack R float) :
    Gives (scanNumber float) (Kept R float) := by
  intro text value rest h
  simp only [scanNumber] at h
  cases hinteger : scanInteger (scanSign text).2 with
  | none =>
    rw [hinteger] at h
    contradiction
  | some result =>
    obtain ⟨integer, after⟩ := result
    simp only [hinteger] at h
    split_ifs at h with hint
    · cases h
      trivial
    · cases h
      cases hfloat : float ((scanSign text).1 ++ integer ++ (scanFraction after).1 ++
          (scanExponent (scanFraction after).2).1) with
      | finite q =>
        refine hfloats _ q ⟨_, _, _, _, rfl, ?_⟩ hfloat
        exact {
          sign_cases := scanSign_cases text
          integer_token := scanInteger_gives _ _ _ hinteger
          fraction_cases := scanFraction_cases after
          exponent_cases := scanExponent_cases _
          isFloat := not_and_or.mp hint }
      | infinity negative => trivial
      | nan => trivial

theorem scanLiteral_gives : Gives scanLiteral (Kept R float) := by
  intro text value rest h
  obtain ⟨literal, hmem, hliteral⟩ := List.exists_of_findSome?_eq_some h
  obtain ⟨word, value'⟩ := literal
  dsimp only at hliteral
  split_ifs at hliteral
  cases hliteral
  simp only [literals, List.mem_cons, List.not_mem_nil, or_false, Prod.mk.injEq] at hmem
  rcases hmem with ⟨-, rfl⟩ | ⟨-, rfl⟩ | ⟨-, rfl⟩ | ⟨-, rfl⟩ | ⟨-, rfl⟩ | ⟨-, rfl⟩ <;> trivial

theorem keptItems_iff {items : List Json} :
    KeptItems R float items ↔ ∀ item ∈ items, item.Kept R float := by
  induction items with
  | nil => simp [KeptItems]
  | cons item items ih => rw [KeptItems, ih, List.forall_mem_cons]

theorem keptEntries_iff {entries : List (Text × Json)} :
    KeptEntries R float entries ↔ ∀ entry ∈ entries, entry.2.Kept R float := by
  induction entries with
  | nil => simp [KeptEntries]
  | cons entry entries ih => rw [KeptEntries, ih, List.forall_mem_cons]

theorem kept_lookup {entries : List (Text × Json)} {key : Text} {value : Json}
    (h : KeptEntries R float entries) (hlookup : entries.lookup key = some value) :
    value.Kept R float := by
  induction entries with
  | nil => contradiction
  | cons entry entries ih =>
    rw [List.lookup_cons] at hlookup
    split at hlookup
    · cases hlookup
      exact h.1
    · exact ih h.2 hlookup

theorem kept_null : Json.null.Kept R float := trivial

theorem kept_str (s : Text) : (Json.str s).Kept R float := trivial

theorem kept_dict {entries : List (Text × Json)} (h : ∀ entry ∈ entries, entry.2.Kept R float) :
    (map (dict entries)).Kept R float := by
  refine ⟨OrderedDict.nodup _, keptEntries_iff.mpr ?_⟩
  intro entry hentry
  have hget := OrderedDict.get_of_mem_entries (k := entry.1) (v := entry.2) hentry
  obtain hstart | ⟨other, hother, -, heq⟩ := OrderedDict.get_foldl_set_cases hget
  · contradiction
  · exact heq ▸ h other hother

theorem scanEntry_gives {item : Reader Char Json} (h : Gives item (Kept R float)) (n : ℕ) :
    Gives (scanEntry item n) (fun entry => entry.2.Kept R float) := by
  intro text entry rest hread
  cases text with
  | nil => contradiction
  | cons c text =>
    rw [scanEntry] at hread
    split_ifs at hread
    cases hkey : scanString n text with
    | none =>
      rw [hkey] at hread
      contradiction
    | some result =>
      simp only [hkey] at hread
      split at hread
      · contradiction
      · split_ifs at hread
        obtain ⟨⟨value, rest'⟩, hvalue, heq⟩ := Option.map_eq_some_iff.mp hread
        cases heq
        exact h _ _ _ hvalue

theorem scanOnce_gives (hfloats : FloatsReadBack R float) (n : ℕ) :
    Gives (scanOnce float n) (Kept R float) := by
  induction n with
  | zero =>
    intro text value rest h
    cases text <;> contradiction
  | succ n ih =>
    intro text value rest h
    cases text with
    | nil => contradiction
    | cons c text =>
      rw [scanOnce] at h
      split_ifs at h
      · obtain ⟨result, -, heq⟩ := Option.map_eq_some_iff.mp h
        cases heq
        trivial
      · obtain ⟨⟨entries, rest'⟩, hentries, heq⟩ := Option.map_eq_some_iff.mp h
        cases heq
        exact kept_dict ((scanEntry_gives ih n).delimited n _ _ _ hentries)
      · obtain ⟨⟨items, rest'⟩, hitems, heq⟩ := Option.map_eq_some_iff.mp h
        cases heq
        exact keptItems_iff.mpr (ih.delimited n _ _ _ hitems)
      · cases hliteral : scanLiteral (c :: text) with
        | some result =>
          rw [hliteral] at h
          cases h
          exact scanLiteral_gives _ _ _ hliteral
        | none =>
          rw [hliteral] at h
          exact scanNumber_gives hfloats _ _ _ h

theorem kept_of_loads (hfloats : FloatsReadBack R float) {text : Text} {value : Json}
    (h : loads float text = some value) : value.Kept R float := by
  rw [loads] at h
  cases hread : scanOnce float text.length (text.dropWhile isBlank) with
  | none =>
    rw [hread] at h
    contradiction
  | some result =>
    simp only [hread] at h
    split_ifs at h
    cases h
    exact scanOnce_gives hfloats _ _ _ _ hread

end GcpMonitor.Python.Json
