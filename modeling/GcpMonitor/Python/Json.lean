import GcpMonitor.Python.Float

namespace GcpMonitor.Python

inductive Json where
  | null
  | bool (b : Bool)
  | int (n : ℤ)
  | float (x : PyFloat)
  | str (s : Text)
  | list (items : List Json)
  | map (entries : List (Text × Json))

namespace Json

def truthy : Json → Bool
  | .null => false
  | .bool b => b
  | .int n => n ≠ 0
  | .float x => x ≠ .finite 0
  | .str s => s ≠ []
  | .list items => !items.isEmpty
  | .map entries => !entries.isEmpty

def get (value : Json) (key : String) (default : Json) : Except PyError Json :=
  match value with
  | .map entries => .ok ((entries.lookup key.toList).getD default)
  | _ => .error .attributeError

def item (value : Json) (key : String) : Except PyError Json :=
  match value with
  | .map entries => (entries.lookup key.toList).elim (.error .keyError) .ok
  | _ => .error .typeError

def contains (value : Json) (key : String) : Except PyError Bool :=
  match value with
  | .map entries => .ok (entries.lookup key.toList).isSome
  | .list items => .ok (items.any (fun item =>
      match item with
      | .str s => s = key.toList
      | _ => false))
  | .str s => .ok (s.tails.any (fun t => key.toList.isPrefixOf t))
  | _ => .error .typeError

def len : Json → Except PyError ℕ
  | .str s => .ok s.length
  | .list items => .ok items.length
  | .map entries => .ok entries.length
  | _ => .error .typeError

def items : Json → Except PyError (List (Text × Json))
  | .map entries => .ok entries
  | _ => .error .attributeError

def number : Json → Except PyError Number
  | .bool b => .ok (.int (if b then 1 else 0))
  | .int n => .ok (.int n)
  | .float x => .ok (.float x)
  | _ => .error .typeError

def iter : Json → Except PyError (List Json)
  | .str s => .ok (s.map (fun c => .str [c]))
  | .list items => .ok items
  | .map entries => .ok (entries.map (fun entry => .str entry.1))
  | _ => .error .typeError

def endsWith (value : Json) (suffix : String) : Except PyError Bool :=
  match value with
  | .str s => .ok (suffix.toList.isSuffixOf s)
  | _ => .error .attributeError

end Json

end GcpMonitor.Python
