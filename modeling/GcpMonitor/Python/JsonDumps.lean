import GcpMonitor.Python.JsonStrings
import GcpMonitor.Python.JsonNumbers

namespace GcpMonitor.Python.Json

open TextReader

variable (R : PyRepr) (float : Text → PyFloat)

structure FloatKept (q : ℚ) : Prop where
  isFloat : IsFloat (R.ofFloat (.finite q))
  readBack : float (R.ofFloat (.finite q)) = .finite q

mutual

/-- A value that Python can hold: the keys of a dictionary are distinct, and its floats are those
that `repr` writes so that they read back. -/
def Kept : Json → Prop
  | .float (.finite q) => FloatKept R float q
  | .list items => KeptItems items
  | .map entries => (entries.map Prod.fst).Nodup ∧ KeptEntries entries
  | _ => True

def KeptItems : List Json → Prop
  | [] => True
  | item :: items => Kept item ∧ KeptItems items

def KeptEntries : List (Text × Json) → Prop
  | [] => True
  | (_, value) :: entries => Kept value ∧ KeptEntries entries

end

variable {R float}

theorem dict_of_nodup {entries : List (Text × Json)} (h : (entries.map Prod.fst).Nodup) :
    dict entries = entries := by
  have hentries : (entries.foldl (fun d entry => d.set entry.1 entry.2)
      OrderedDict.empty).entries = OrderedDict.empty.entries ++ entries :=
    OrderedDict.entries_foldl_set_of_nodup h
  exact hentries

def NumberStart : Text → Prop
  | [] => False
  | c :: tail => c.isDigit = true ∨ (c = '-' ∧ ∃ d ∈ tail.head?, d.isDigit = true)

theorem literals_start {word : Text} {value : Json} (h : (word, value) ∈ literals) :
    ∃ c tail, word = c :: tail ∧ c.isDigit = false ∧
      (c = '-' → ∃ d ∈ tail.head?, d.isDigit = false) := by
  simp only [literals, List.mem_cons, List.not_mem_nil, or_false, Prod.mk.injEq] at h
  rcases h with ⟨rfl, rfl⟩ | ⟨rfl, rfl⟩ | ⟨rfl, rfl⟩ | ⟨rfl, rfl⟩ | ⟨rfl, rfl⟩ | ⟨rfl, rfl⟩
  · exact ⟨_, _, rfl, rfl, fun hc => absurd hc (by decide)⟩
  · exact ⟨_, _, rfl, rfl, fun hc => absurd hc (by decide)⟩
  · exact ⟨_, _, rfl, rfl, fun hc => absurd hc (by decide)⟩
  · exact ⟨_, _, rfl, rfl, fun hc => absurd hc (by decide)⟩
  · exact ⟨_, _, rfl, rfl, fun hc => absurd hc (by decide)⟩
  · exact ⟨_, _, rfl, rfl, fun _ => ⟨'I', rfl, rfl⟩⟩

theorem numberStart_append {text : Text} (h : NumberStart text) (rest : Text) :
    NumberStart (text ++ rest) := by
  cases text with
  | nil => contradiction
  | cons c tail =>
    obtain hc | ⟨hc, d, hd, hdigit⟩ := h
    · exact .inl hc
    · refine .inr ⟨hc, d, ?_, hdigit⟩
      change d ∈ (tail ++ rest).head?
      rw [List.head?_append, hd]
      rfl

theorem scanLiteral_number {text : Text} (h : NumberStart text) : scanLiteral text = none := by
  rw [scanLiteral, List.findSome?_eq_none_iff]
  rintro ⟨word, value⟩ hmem
  obtain ⟨c, tail, rfl, hc, hminus⟩ := literals_start hmem
  apply if_neg
  intro hprefix
  obtain ⟨after, rfl⟩ := List.isPrefixOf_iff_prefix.mp hprefix
  obtain hdigit | ⟨rfl, d, hd, hdigit⟩ := h
  · rw [hc] at hdigit
    contradiction
  · obtain ⟨e, he, hletter⟩ := hminus rfl
    rw [List.append_eq, List.head?_append, he] at hd
    cases hd
    rw [hletter] at hdigit
    contradiction

theorem scanOnce_number {text : Text} (h : NumberStart text) (n : ℕ) (rest : Text) :
    scanOnce float (n + 1) (text ++ rest) = scanNumber float (text ++ rest) := by
  have hliteral := scanLiteral_number (numberStart_append h rest)
  cases text with
  | nil => contradiction
  | cons c tail =>
    have hmark : ∀ d ∈ ['"', '\x7b', '['], c ≠ d := by
      rintro d hd rfl
      obtain hdigit | ⟨rfl, -⟩ := h
      · simp only [List.mem_cons, List.not_mem_nil, or_false] at hd
        rcases hd with rfl | rfl | rfl <;> contradiction
      · exact absurd hd (by decide)
    rw [List.cons_append] at hliteral ⊢
    rw [scanOnce, if_neg (hmark _ (by simp)), if_neg (hmark _ (by simp)),
      if_neg (hmark _ (by simp)), hliteral]

theorem numberStart_ofInt (n : ℤ) : NumberStart (Text.ofInt n) := by
  cases n with
  | ofNat m =>
    obtain ⟨c, tail, htoken, hc⟩ := (integerToken_toDigits m).head
    rw [Text.ofInt, htoken]
    exact .inl hc
  | negSucc m =>
    obtain ⟨c, tail, htoken, hc⟩ := (integerToken_toDigits (m + 1)).head
    rw [Text.ofInt, htoken]
    exact .inr ⟨rfl, c, rfl, hc⟩

theorem numberStart_float {text : Text} (h : IsFloat text) : NumberStart text := by
  obtain ⟨sign, integer, fraction, exponent, rfl, htoken⟩ := h
  obtain ⟨c, tail, hinteger, hc⟩ := htoken.integer_token.head
  obtain hsign | hsign := htoken.sign_cases
  · rw [hsign, hinteger]
    exact .inl hc
  · rw [hsign, hinteger]
    exact .inr ⟨rfl, c, rfl, hc⟩

def ValueStart (text : Text) : Prop :=
  ∃ c tail, text = c :: tail ∧ isBlank c = false ∧ c ≠ ']'

theorem valueStart_number {text : Text} (h : NumberStart text) : ValueStart text := by
  cases text with
  | nil => contradiction
  | cons c tail =>
    refine ⟨c, tail, rfl, ?_⟩
    obtain hc | ⟨rfl, -⟩ := h
    · constructor
      · simp only [isBlank, Bool.or_eq_false_iff, decide_eq_false_iff_not]
        refine ⟨⟨⟨?_, ?_⟩, ?_⟩, ?_⟩ <;> rintro rfl <;> contradiction
      · rintro rfl
        contradiction
    · exact ⟨rfl, by decide⟩

theorem valueStart_dumps {value : Json} (h : value.Kept R float) : ValueStart (value.dumps R) := by
  cases value with
  | null => exact ⟨_, _, rfl, rfl, by decide⟩
  | bool b => cases b <;> exact ⟨_, _, rfl, rfl, by decide⟩
  | int n => exact valueStart_number (numberStart_ofInt n)
  | float x =>
    cases x with
    | finite q =>
      have hkept : FloatKept R float q := h
      exact valueStart_number (numberStart_float hkept.isFloat)
    | infinity negative => cases negative <;> exact ⟨_, _, rfl, rfl, by decide⟩
    | nan => exact ⟨_, _, rfl, rfl, by decide⟩
  | str s => exact ⟨_, _, rfl, rfl, by decide⟩
  | list items => exact ⟨_, _, rfl, rfl, by decide⟩
  | map entries => exact ⟨_, _, rfl, rfl, by decide⟩

theorem endsRun_of_endsItem {close : Char} (hclose : isNumberPart close = false) {rest : Text}
    (h : EndsItem isBlank ',' close rest) : EndsRun isNumberPart rest := by
  obtain ⟨c, tail, rfl, hc⟩ := h
  apply endsRun_cons
  obtain hc | rfl | rfl := hc
  · simp only [isBlank, Bool.or_eq_true, decide_eq_true_eq] at hc
    rcases hc with ((rfl | rfl) | rfl) | rfl <;> rfl
  · rfl
  · exact hclose

theorem scanOnce_literal {word : Text} {value : Json} (h : (word, value) ∈ literals) {n : ℕ}
    (hn : word.length ≤ n) (rest : Text) :
    scanOnce float n (word ++ rest) = some (value, rest) := by
  simp only [literals, List.mem_cons, List.not_mem_nil, or_false, Prod.mk.injEq] at h
  cases n with
  | zero =>
    rcases h with ⟨rfl, -⟩ | ⟨rfl, -⟩ | ⟨rfl, -⟩ | ⟨rfl, -⟩ | ⟨rfl, -⟩ | ⟨rfl, -⟩ <;> cases hn
  | succ n =>
    rcases h with ⟨rfl, rfl⟩ | ⟨rfl, rfl⟩ | ⟨rfl, rfl⟩ | ⟨rfl, rfl⟩ | ⟨rfl, rfl⟩ | ⟨rfl, rfl⟩ <;>
      rfl

theorem scanOnce_str {s : Text} {n : ℕ} (hn : (dumpsStr s).length ≤ n) (rest : Text) :
    scanOnce float n (dumpsStr s ++ rest) = some (.str s, rest) := by
  have hlength := length_le_dumpsStr s
  obtain ⟨n, rfl⟩ : ∃ m, n = m + 1 := ⟨n - 1, by omega⟩
  rw [dumpsStr, List.cons_append, List.cons_append, List.append_assoc, scanOnce, if_pos rfl]
  have hstring := scanString_escape s (show s.length ≤ n by omega) rest
  rw [List.singleton_append, hstring]
  rfl

theorem scanOnce_int {k : ℤ} {n : ℕ} (hn : (Text.ofInt k).length ≤ n) :
    Reads (scanOnce float n) (EndsRun isNumberPart) (Text.ofInt k) (.int k) := by
  intro rest hrest
  have hstart := numberStart_ofInt k
  cases n with
  | zero =>
    rw [List.eq_nil_of_length_eq_zero (Nat.le_zero.mp hn)] at hstart
    contradiction
  | succ n =>
    rw [scanOnce_number hstart]
    exact scanNumber_ofInt float k rest hrest

theorem scanOnce_float {q : ℚ} (h : FloatKept R float q) {n : ℕ}
    (hn : (R.ofFloat (.finite q)).length ≤ n) :
    Reads (scanOnce float n) (EndsRun isNumberPart) (R.ofFloat (.finite q))
      (.float (.finite q)) := by
  intro rest hrest
  have hstart := numberStart_float h.isFloat
  cases n with
  | zero => exact absurd (List.eq_nil_of_length_eq_zero (Nat.le_zero.mp hn)) (R.ofFloat_ne_nil _)
  | succ n =>
    rw [scanOnce_number hstart, scanNumber_float float h.isFloat rest hrest, h.readBack]

theorem scanEntry_dumps {key : Text} {value : Json} (hvalue : value.Kept R float) {n : ℕ}
    (hread : Reads (scanOnce float n) (EndsRun isNumberPart) (value.dumps R) value)
    (hkey : key.length ≤ n) : WritesItem isBlank ',' '\x7d' (scanEntry (scanOnce float n) n)
      (dumpsStr key ++ ": ".toList ++ value.dumps R) (key, value) where
  reads := by
    intro rest hrest
    obtain ⟨c, tail, hstart, hblank, -⟩ := valueStart_dumps hvalue
    have hvalueRead := hread rest (endsRun_of_endsItem rfl hrest)
    have hstring := scanString_escape key hkey (": ".toList ++ (value.dumps R ++ rest))
    have htext : dumpsStr key ++ ": ".toList ++ value.dumps R ++ rest =
        '"' :: (key.flatMap escapeChar ++ '"' :: (": ".toList ++ (value.dumps R ++ rest))) := by
      simp [dumpsStr]
    rw [htext, scanEntry, if_pos rfl, hstring]
    have hcolon : (": ".toList ++ (value.dumps R ++ rest)).dropWhile isBlank =
        ':' :: ' ' :: (value.dumps R ++ rest) := rfl
    have hspace : (' ' :: (value.dumps R ++ rest)).dropWhile isBlank = value.dumps R ++ rest := by
      rw [hstart, List.dropWhile_cons_of_pos rfl, List.cons_append,
        List.dropWhile_cons_of_neg (by simp [hblank])]
    simp only [hcolon, if_true, hspace, hvalueRead, Option.map_some]
  starts := ⟨'"', _, rfl, rfl, by decide⟩

theorem WritesItem.text_ne {close : Char} {β : Type} {item : Reader Char β} {texts : List Text}
    {values : List β} (h : List.Forall₂ (WritesItem isBlank ',' close item) texts values) :
    ∀ text ∈ texts, text ≠ [] := by
  induction h with
  | nil => simp
  | cons hitem _ ih =>
    obtain ⟨c, tail, rfl, -⟩ := hitem.starts
    intro text htext
    obtain rfl | htext := List.mem_cons.mp htext
    · exact List.cons_ne_nil _ _
    · exact ih text htext

theorem reads_glued {close : Char} (hclose : isBlank close = false) (hne : ',' ≠ close)
    {blanks : Text} (hblanks : ∀ c ∈ blanks, isBlank c = true) {β : Type} {item : Reader Char β}
    {texts : List Text} {values : List β}
    (h : List.Forall₂ (WritesItem isBlank ',' close item) texts values) {n : ℕ}
    (hn : ((',' :: blanks).intercalate texts).length ≤ n) (rest : Text) :
    readDelimited isBlank ',' close item n ((',' :: blanks).intercalate texts ++ close :: rest) =
      some (values, rest) := by
  have hcount : texts.length ≤ ((',' :: blanks).intercalate texts).length :=
    count_le_intercalate (WritesItem.text_ne h)
  exact reads_delimited rfl hclose hne hblanks h (hcount.trans hn) rest

theorem scanOnce_items {blanks : Text} (hblanks : ∀ c ∈ blanks, isBlank c = true)
    {texts : List Text} {items : List Json} {n : ℕ}
    (hn : ((',' :: blanks).intercalate texts).length ≤ n)
    (h : List.Forall₂ (WritesItem isBlank ',' ']' (scanOnce float n)) texts items) (rest : Text) :
    scanOnce float (n + 1) ('[' :: (',' :: blanks).intercalate texts ++ [']'] ++ rest) =
      some (.list items, rest) := by
  rw [List.cons_append, List.cons_append, List.append_assoc, List.singleton_append, scanOnce,
    if_neg (by decide), if_neg (by decide), if_pos rfl, reads_glued rfl (by decide) hblanks h hn]
  rfl

theorem glue_length {mark close : Char} {text : Text} {n : ℕ}
    (hn : (mark :: text ++ [close]).length ≤ n + 1) : text.length ≤ n := by
  rw [List.length_append, List.length_cons, List.length_singleton] at hn
  omega

theorem space_blank : ∀ c ∈ [' '], isBlank c = true := by
  intro c hc
  rw [List.mem_singleton.mp hc]
  exact Eq.refl true

theorem scanOnce_map {entries : List (Text × Json)} (hnodup : (entries.map Prod.fst).Nodup) {n : ℕ}
    (hn : (commaSeparated (dumpsEntries R entries)).length ≤ n)
    (h : List.Forall₂ (WritesItem isBlank ',' '\x7d' (scanEntry (scanOnce float n) n))
      (dumpsEntries R entries) entries) (rest : Text) :
    scanOnce float (n + 1) ((map entries).dumps R ++ rest) = some (.map entries, rest) := by
  have hread := reads_glued rfl (by decide) space_blank h hn rest
  rw [dumps, List.cons_append, List.cons_append, List.append_assoc, List.singleton_append, scanOnce,
    if_neg (by decide), if_pos rfl]
  change (readDelimited isBlank ',' '\x7d' (scanEntry (scanOnce float n) n) n
    ([',', ' '].intercalate (dumpsEntries R entries) ++ '\x7d' :: rest)).map _ = _
  rw [hread]
  dsimp only [Option.map_some]
  rw [dict_of_nodup hnodup]

theorem exists_fuel {c : Char} {text : Text} {n : ℕ} (hn : (c :: text).length ≤ n) :
    ∃ m, n = m + 1 := by
  rw [List.length_cons] at hn
  exact ⟨n - 1, by omega⟩

mutual

/-- The recursion is that of `dumps`; the length of the text bounds what the reader needs. -/
theorem reads_dumps : ∀ (value : Json), value.Kept R float → ∀ n, (value.dumps R).length ≤ n →
    Reads (scanOnce float n) (EndsRun isNumberPart) (value.dumps R) value
  | .null, _, n, hn => fun rest _ => scanOnce_literal (by simp [literals, dumps]) hn rest
  | .bool true, _, n, hn => fun rest _ => scanOnce_literal (by simp [literals, dumps]) hn rest
  | .bool false, _, n, hn => fun rest _ => scanOnce_literal (by simp [literals, dumps]) hn rest
  | .int k, _, n, hn => scanOnce_int hn
  | .float (.finite q), hkept, n, hn => scanOnce_float hkept hn
  | .float (.infinity true), _, n, hn => fun rest _ =>
    scanOnce_literal (by simp [literals, dumps, dumpsFloat]) hn rest
  | .float (.infinity false), _, n, hn => fun rest _ =>
    scanOnce_literal (by simp [literals, dumps, dumpsFloat]) hn rest
  | .float .nan, _, n, hn => fun rest _ =>
    scanOnce_literal (by simp [literals, dumps, dumpsFloat]) hn rest
  | .str s, _, n, hn => fun rest _ => scanOnce_str hn rest
  | .list items, hkept, n, hn => by
    intro rest _
    obtain ⟨n, rfl⟩ := exists_fuel hn
    have hn := glue_length hn
    apply scanOnce_items space_blank hn
    apply reads_dumpsItems items hkept n
    exact fun text htext => (length_le_intercalate htext).trans hn
  | .map entries, hkept, n, hn => by
    intro rest _
    obtain ⟨n, rfl⟩ := exists_fuel hn
    have hn := glue_length hn
    apply scanOnce_map hkept.1 hn
    apply reads_dumpsEntries entries hkept.2 n
    exact fun text htext => (length_le_intercalate htext).trans hn

theorem reads_dumpsItems : ∀ (items : List Json), KeptItems R float items → ∀ n,
    (∀ text ∈ dumpsItems R items, text.length ≤ n) →
      List.Forall₂ (WritesItem isBlank ',' ']' (scanOnce float n)) (dumpsItems R items) items
  | [], _, n, _ => .nil
  | item :: items, hkept, n, hn => by
    refine .cons ⟨?_, ?_⟩ (reads_dumpsItems items hkept.2 n ?_)
    · have hread := reads_dumps item hkept.1 n (hn _ List.mem_cons_self)
      exact hread.mono (fun rest hrest => endsRun_of_endsItem rfl hrest)
    · exact valueStart_dumps hkept.1
    · intro text htext
      exact hn text (List.mem_cons_of_mem _ htext)

theorem reads_dumpsEntries : ∀ (entries : List (Text × Json)), KeptEntries R float entries → ∀ n,
    (∀ text ∈ dumpsEntries R entries, text.length ≤ n) →
      List.Forall₂ (WritesItem isBlank ',' '\x7d' (scanEntry (scanOnce float n) n))
        (dumpsEntries R entries) entries
  | [], _, n, _ => .nil
  | (key, value) :: entries, hkept, n, hn => by
    have hlength := hn _ List.mem_cons_self
    have hkey := length_le_dumpsStr key
    rw [List.length_append, List.length_append] at hlength
    refine .cons (scanEntry_dumps hkept.1 (reads_dumps value hkept.1 n ?_) ?_)
      (reads_dumpsEntries entries hkept.2 n ?_)
    · omega
    · omega
    · intro text htext
      exact hn text (List.mem_cons_of_mem _ htext)

end

theorem loads_of_start {text : Text} (hstart : ValueStart text) {value : Json}
    (hread : scanOnce float text.length text = some (value, [])) :
    loads float text = some value := by
  obtain ⟨c, tail, rfl, hblank, -⟩ := hstart
  rw [loads, List.dropWhile_cons_of_neg (by simp [hblank]), hread]
  rfl

theorem loads_dumps {value : Json} (h : value.Kept R float) :
    loads float (value.dumps R) = some value := by
  have hread := reads_dumps value h _ (Nat.le_refl _) [] endsRun_nil
  rw [List.append_nil] at hread
  exact loads_of_start (valueStart_dumps h) hread

theorem loads_joined {blanks : Text} (hblanks : ∀ c ∈ blanks, isBlank c = true) {items : List Json}
    (h : KeptItems R float items) :
    loads float ('[' :: (',' :: blanks).intercalate (dumpsItems R items) ++ [']']) =
      some (.list items) := by
  have hstart : ValueStart ('[' :: (',' :: blanks).intercalate (dumpsItems R items) ++ [']']) :=
    ⟨'[', _, rfl, rfl, by decide⟩
  apply loads_of_start hstart
  obtain ⟨n, hlength⟩ := exists_fuel (Nat.le_refl
    ('[' :: ((',' :: blanks).intercalate (dumpsItems R items) ++ [']'])).length)
  have hn := glue_length (Nat.le_of_eq hlength)
  have hitems := reads_dumpsItems items h n
    (fun text htext => (length_le_intercalate htext).trans hn)
  rw [List.cons_append, hlength, ← List.cons_append, ← List.append_nil (_ ++ [']'])]
  exact scanOnce_items hblanks hn hitems []

end GcpMonitor.Python.Json
