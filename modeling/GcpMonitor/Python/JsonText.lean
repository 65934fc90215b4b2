import GcpMonitor.Python.Json

namespace GcpMonitor.Python

structure PyRepr where
  ofStr : Text → Text
  ofFloat : PyFloat → Text
  ofFloat_ne_nil : ∀ x, ofFloat x ≠ []

namespace Json

def commaSeparated (texts : List Text) : Text := (", ".toList).intercalate texts

mutual

def repr (R : PyRepr) : Json → Text
  | .null => "None".toList
  | .bool b => if b then "True".toList else "False".toList
  | .int n => Text.ofInt n
  | .float x => R.ofFloat x
  | .str s => R.ofStr s
  | .list items => '[' :: commaSeparated (reprItems R items) ++ [']']
  | .map entries => '\x7b' :: commaSeparated (reprEntries R entries) ++ ['\x7d']

def reprItems (R : PyRepr) : List Json → List Text
  | [] => []
  | item :: items => item.repr R :: reprItems R items

def reprEntries (R : PyRepr) : List (Text × Json) → List Text
  | [] => []
  | (key, value) :: entries =>
    (R.ofStr key ++ ": ".toList ++ value.repr R) :: reprEntries R entries

end

def toStr (R : PyRepr) : Json → Text
  | .str s => s
  | value => value.repr R

def unicodeEscape (n : ℕ) : Text := '\\' :: 'u' :: (Nat.toDigits 16 n).leftpad 4 '0'

/-- The `ensure_ascii` escapes, with a surrogate pair for what lies outside of the first plane. -/
def escapeChar (c : Char) : Text :=
  let n := c.toNat
  if c = '"' || c = '\\' then ['\\', c]
  else if c = '\n' then ['\\', 'n']
  else if c = '\r' then ['\\', 'r']
  else if c = '\t' then ['\\', 't']
  else if n = 8 then ['\\', 'b']
  else if n = 12 then ['\\', 'f']
  else if 0x20 ≤ n ∧ n ≤ 0x7e then [c]
  else if n < 0x10000 then unicodeEscape n
  else unicodeEscape (0xd800 + (n - 0x10000) / 0x400) ++
    unicodeEscape (0xdc00 + (n - 0x10000) % 0x400)

def dumpsStr (s : Text) : Text := '"' :: s.flatMap escapeChar ++ ['"']

def dumpsFloat (R : PyRepr) : PyFloat → Text
  | .finite q => R.ofFloat (.finite q)
  | .infinity negative => if negative then "-Infinity".toList else "Infinity".toList
  | .nan => "NaN".toList

mutual

def dumps (R : PyRepr) : Json → Text
  | .null => "null".toList
  | .bool b => if b then "true".toList else "false".toList
  | .int n => Text.ofInt n
  | .float x => dumpsFloat R x
  | .str s => dumpsStr s
  | .list items => '[' :: commaSeparated (dumpsItems R items) ++ [']']
  | .map entries => '\x7b' :: commaSeparated (dumpsEntries R entries) ++ ['\x7d']

def dumpsItems (R : PyRepr) : List Json → List Text
  | [] => []
  | item :: items => item.dumps R :: dumpsItems R items

def dumpsEntries (R : PyRepr) : List (Text × Json) → List Text
  | [] => []
  | (key, value) :: entries =>
    (dumpsStr key ++ ": ".toList ++ value.dumps R) :: dumpsEntries R entries

end

theorem dumps_ne_nil (R : PyRepr) (value : Json) : value.dumps R ≠ [] := by
  cases value with
  | null => simp [dumps]
  | bool b => cases b <;> simp [dumps]
  | int n => cases n <;> simp [dumps, Text.ofInt, Nat.toDigits_ne_nil]
  | float x =>
    cases x with
    | finite q => exact R.ofFloat_ne_nil _
    | infinity negative => cases negative <;> simp [dumps, dumpsFloat]
    | nan => simp [dumps, dumpsFloat]
  | str s => simp [dumps, dumpsStr]
  | list items => simp [dumps]
  | map entries => simp [dumps]

end Json

end GcpMonitor.Python
