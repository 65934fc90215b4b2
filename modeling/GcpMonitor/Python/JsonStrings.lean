import GcpMonitor.Python.JsonLoads
import Mathlib.Tactic.Common

namespace GcpMonitor.Python.Json

open TextReader

theorem hexValue_digitChar : ∀ n < 16, hexValue (Nat.digitChar n) = some n := by decide

theorem leftpad_toDigits {n : ℕ} (hn : n < 0x10000) : (Nat.toDigits 16 n).leftpad 4 '0' =
    [Nat.digitChar (n / 4096), Nat.digitChar (n / 256 % 16), Nat.digitChar (n / 16 % 16),
      Nat.digitChar (n % 16)] := by
  have hzero : Nat.digitChar 0 = '0' := rfl
  have hbase : 1 < 16 := by decide
  by_cases h1 : n < 16
  · rw [Nat.toDigits_of_lt_base h1, Nat.div_eq_of_lt (show n < 4096 by omega),
      Nat.div_eq_of_lt (show n < 256 by omega), Nat.div_eq_of_lt h1, Nat.mod_eq_of_lt h1]
    rfl
  · by_cases h2 : n < 256
    · have hdiv : n / 16 < 16 := by omega
      rw [Nat.toDigits_of_base_le hbase (by omega), Nat.toDigits_of_lt_base hdiv,
        Nat.div_eq_of_lt (show n < 4096 by omega), Nat.div_eq_of_lt h2, Nat.mod_eq_of_lt hdiv]
      rfl
    · by_cases h3 : n < 4096
      · have hdiv : n / 256 < 16 := by omega
        rw [Nat.toDigits_of_base_le hbase (by omega), Nat.toDigits_of_base_le hbase (by omega),
          Nat.div_div_eq_div_mul, Nat.toDigits_of_lt_base hdiv, Nat.div_eq_of_lt h3,
          Nat.mod_eq_of_lt hdiv]
        rfl
      · have hdiv : n / 4096 < 16 := by omega
        rw [Nat.toDigits_of_base_le hbase (by omega), Nat.toDigits_of_base_le hbase (by omega),
          Nat.div_div_eq_div_mul, Nat.toDigits_of_base_le hbase (by omega),
          Nat.div_div_eq_div_mul, Nat.toDigits_of_lt_base hdiv]
        rfl

theorem decodeUnicode_leftpad {n : ℕ} (hn : n < 0x10000) (rest : Text) :
    decodeUnicode ((Nat.toDigits 16 n).leftpad 4 '0' ++ rest) = some (n, rest) := by
  rw [leftpad_toDigits hn]
  simp only [List.cons_append, List.nil_append, decodeUnicode]
  rw [hexValue_digitChar _ (by omega), hexValue_digitChar _ (by omega),
    hexValue_digitChar _ (by omega), hexValue_digitChar _ (by omega)]
  simp only [Option.some.injEq, Prod.mk.injEq, and_true]
  omega

theorem toNat_valid (c : Char) : c.toNat < 0xd800 ∨ (0xdfff < c.toNat ∧ c.toNat < 0x110000) :=
  c.valid

theorem scanChar_unicodeEscape (n : ℕ) (rest : Text) :
    scanChar (unicodeEscape n ++ rest) =
      scanUnicode ((Nat.toDigits 16 n).leftpad 4 '0' ++ rest) := by
  rw [unicodeEscape]
  simp only [List.cons_append, scanChar, if_true]

theorem scanUnicode_plane {c : Char} (hc : c.toNat < 0x10000) (rest : Text) :
    scanUnicode ((Nat.toDigits 16 c.toNat).leftpad 4 '0' ++ rest) = some (c, rest) := by
  have hvalid := toNat_valid c
  rw [scanUnicode, decodeUnicode_leftpad hc]
  dsimp only
  rw [if_neg (by omega), if_neg (by omega), Char.ofNat_toNat]

theorem scanUnicode_pair {high low : ℕ} (hhigh : 0xd800 ≤ high ∧ high ≤ 0xdbff)
    (hlow : 0xdc00 ≤ low ∧ low ≤ 0xdfff) (rest : Text) :
    scanUnicode ((Nat.toDigits 16 high).leftpad 4 '0' ++ (unicodeEscape low ++ rest)) =
      some (Char.ofNat (0x10000 + ((high - 0xd800) * 0x400 + (low - 0xdc00))), rest) := by
  rw [scanUnicode, decodeUnicode_leftpad (by omega)]
  dsimp only
  rw [if_pos hhigh, unicodeEscape]
  simp only [List.cons_append]
  rw [decodeUnicode_leftpad (by omega)]
  dsimp only
  rw [if_pos hlow]

theorem surrogates {n : ℕ} (hn : 0x10000 ≤ n ∧ n < 0x110000) :
    (0xd800 ≤ 0xd800 + (n - 0x10000) / 0x400 ∧ 0xd800 + (n - 0x10000) / 0x400 ≤ 0xdbff) ∧
      (0xdc00 ≤ 0xdc00 + (n - 0x10000) % 0x400 ∧ 0xdc00 + (n - 0x10000) % 0x400 ≤ 0xdfff) ∧
      0x10000 + ((0xd800 + (n - 0x10000) / 0x400 - 0xd800) * 0x400 +
        (0xdc00 + (n - 0x10000) % 0x400 - 0xdc00)) = n := by
  omega

theorem scanChar_plain {c : Char} (h : 0x20 ≤ c.toNat) (hc : c ≠ '\\') (rest : Text) :
    scanChar (c :: rest) = some (c, rest) := by
  unfold scanChar
  dsimp only
  rw [if_neg hc, if_neg (by omega)]

theorem scanChar_backslash {e d : Char} (he : e ≠ 'u') (hd : backslash e = some d) (rest : Text) :
    scanChar ('\\' :: e :: rest) = some (d, rest) := by
  simp [scanChar, he, hd]

theorem eq_of_toNat {c : Char} {n : ℕ} (h : c.toNat = n) : c = Char.ofNat n := by
  rw [← h, Char.ofNat_toNat]

theorem scanChar_escapeChar (c : Char) (rest : Text) :
    scanChar (escapeChar c ++ rest) = some (c, rest) := by
  simp only [escapeChar]
  split_ifs with hquoted hn hr ht hb hf hplain hplane
  · apply scanChar_backslash
    · rintro rfl
      exact absurd hquoted (by decide)
    · rw [Bool.or_eq_true, decide_eq_true_eq, decide_eq_true_eq] at hquoted
      rcases hquoted with rfl | rfl <;> rfl
  · exact hn ▸ scanChar_backslash (by decide) rfl rest
  · exact hr ▸ scanChar_backslash (by decide) rfl rest
  · exact ht ▸ scanChar_backslash (by decide) rfl rest
  · exact eq_of_toNat hb ▸ scanChar_backslash (by decide) rfl rest
  · exact eq_of_toNat hf ▸ scanChar_backslash (by decide) rfl rest
  · apply scanChar_plain hplain.1
    rintro rfl
    exact hquoted rfl
  · rw [scanChar_unicodeEscape, scanUnicode_plane hplane]
  · have hvalid := toNat_valid c
    obtain ⟨hhigh, hlow, hcode⟩ := surrogates (n := c.toNat) (by omega)
    rw [List.append_assoc, scanChar_unicodeEscape, scanUnicode_pair hhigh hlow, hcode,
      Char.ofNat_toNat]

theorem escapeChar_head (c : Char) : ∃ d tail, escapeChar c = d :: tail ∧ d ≠ '"' := by
  simp only [escapeChar]
  split_ifs with hquoted hn hr ht hb hf hplain hplane
  · exact ⟨_, _, rfl, by decide⟩
  · exact ⟨_, _, rfl, by decide⟩
  · exact ⟨_, _, rfl, by decide⟩
  · exact ⟨_, _, rfl, by decide⟩
  · exact ⟨_, _, rfl, by decide⟩
  · exact ⟨_, _, rfl, by decide⟩
  · refine ⟨_, _, rfl, ?_⟩
    rintro rfl
    exact hquoted rfl
  · exact ⟨_, _, rfl, by decide⟩
  · exact ⟨_, _, rfl, by decide⟩

theorem scanString_escape (s : Text) {n : ℕ} (hn : s.length ≤ n) (rest : Text) :
    scanString n (s.flatMap escapeChar ++ '"' :: rest) = some (s, rest) := by
  induction s generalizing n with
  | nil =>
    unfold scanString
    simp
  | cons c s ih =>
    obtain ⟨n, rfl⟩ : ∃ m, n = m + 1 := ⟨n - 1, by rw [List.length_cons] at hn; omega⟩
    have hrest := ih (n := n) (by rw [List.length_cons] at hn; omega)
    obtain ⟨d, tail, hhead, hd⟩ := escapeChar_head c
    have hchar := scanChar_escapeChar c (s.flatMap escapeChar ++ '"' :: rest)
    rw [List.flatMap_cons, List.append_assoc]
    rw [hhead, List.cons_append] at hchar ⊢
    rw [scanString, if_neg hd]
    simp only [hchar, hrest, Option.map_some]

theorem length_le_dumpsStr (s : Text) : s.length + 2 ≤ (dumpsStr s).length := by
  have hescape : s.length ≤ (s.flatMap escapeChar).length := by
    induction s with
    | nil => exact Nat.zero_le _
    | cons c s ih =>
      obtain ⟨d, tail, hhead, -⟩ := escapeChar_head c
      rw [List.flatMap_cons, List.length_append, hhead, List.length_cons, List.length_cons]
      omega
  rw [dumpsStr, List.cons_append, List.length_cons, List.length_append, List.length_singleton]
  omega

end GcpMonitor.Python.Json
