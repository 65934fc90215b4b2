import GcpMonitor.Python.Value

namespace GcpMonitor.Python

inductive Yaml where
  | null
  | bool (b : Bool)
  | int (n : ℤ)
  | float (q : ℚ)
  | infinity
  | nan
  | str (s : Text)
  | timestamp (s : Text)
  | list (items : List Yaml)
  | map (entries : List (Yaml × Yaml))

/-- The YAML package: none stands for the `YAMLError` it raises on text that is not valid YAML. -/
structure YamlLibrary where
  safeLoad : Text → Option Yaml
  safeLoad_empty : safeLoad [] = some .null
  str : Yaml → Text

namespace Yaml

def truthy : Yaml → Bool
  | .null => false
  | .bool b => b
  | .int n => n ≠ 0
  | .float q => q ≠ 0
  | .str s => s ≠ []
  | .list items => !items.isEmpty
  | .map entries => !entries.isEmpty
  | _ => true

def lookup (entries : List (Yaml × Yaml)) (key : Text) : Option Yaml :=
  (entries.find? (fun entry => match entry.1 with
    | .str s => s = key
    | _ => false)).map Prod.snd

def get (value : Yaml) (key : String) (default : Yaml) : Except PyError Yaml :=
  match value with
  | .map entries => .ok ((lookup entries key.toList).getD default)
  | _ => .error .attributeError

def item (value : Yaml) (key : String) : Except PyError Yaml :=
  match value with
  | .map entries => (lookup entries key.toList).elim (.error .keyError) .ok
  | _ => .error .typeError

def iter : Yaml → Except PyError (List Yaml)
  | .str s => .ok (s.map (fun c => .str [c]))
  | .list items => .ok items
  | .map entries => .ok (entries.map Prod.fst)
  | _ => .error .typeError

def items : Yaml → Except PyError (List (Yaml × Yaml))
  | .map entries => .ok entries
  | _ => .error .attributeError

def toInt : Yaml → Except PyError ℤ
  | .bool b => .ok (if b then 1 else 0)
  | .int n => .ok n
  | .float q => .ok (q.num.tdiv q.den)
  | .infinity => .error .overflowError
  | .nan => .error (.valueError none)
  | .str s => (Text.int s).elim (.error (.valueError none)) .ok
  | _ => .error .typeError

/-- Keys of a `dict` that is looked up by names only: none for a key no name is equal to. -/
def nameKey : Yaml → Except PyError (Option (Option Text))
  | .str s => .ok (some (some s))
  | .null => .ok (some none)
  | .list _ => .error .typeError
  | .map _ => .error .typeError
  | _ => .ok none

end Yaml

end GcpMonitor.Python
