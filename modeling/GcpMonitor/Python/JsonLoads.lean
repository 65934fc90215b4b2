import GcpMonitor.Library.OrderedDict
import GcpMonitor.Library.TextReader
import GcpMonitor.Python.JsonText

namespace GcpMonitor.Python

open TextReader

namespace Json

def isBlank (c : Char) : Bool := c = ' ' || c = '\t' || c = '\n' || c = '\r'

def hexValue (c : Char) : Option ℕ :=
  if c.isDigit then some (c.toNat - '0'.toNat)
  else if 'a' ≤ c ∧ c ≤ 'f' then some (c.toNat - 'a'.toNat + 10)
  else if 'A' ≤ c ∧ c ≤ 'F' then some (c.toNat - 'A'.toNat + 10)
  else none

def decodeUnicode : Reader Char ℕ
  | a :: b :: c :: d :: rest =>
    match hexValue a, hexValue b, hexValue c, hexValue d with
    | some a, some b, some c, some d => some (((a * 16 + b) * 16 + c) * 16 + d, rest)
    | _, _, _, _ => none
  | _ => none

/-- The rest of a `\u` escape. A surrogate without its partner is no character. -/
def scanUnicode (text : Text) : Option (Char × Text) :=
  match decodeUnicode text with
  | none => none
  | some (high, rest) =>
    if 0xd800 ≤ high ∧ high ≤ 0xdbff then
      match rest with
      | '\\' :: 'u' :: rest =>
        match decodeUnicode rest with
        | none => none
        | some (low, rest) =>
          if 0xdc00 ≤ low ∧ low ≤ 0xdfff then
            some (Char.ofNat (0x10000 + ((high - 0xd800) * 0x400 + (low - 0xdc00))), rest)
          else none
      | _ => none
    else if 0xdc00 ≤ high ∧ high ≤ 0xdfff then none
    else some (Char.ofNat high, rest)

def backslash (c : Char) : Option Char :=
  if c = '"' || c = '\\' || c = '/' then some c
  else if c = 'b' then some (Char.ofNat 8)
  else if c = 'f' then some (Char.ofNat 12)
  else if c = 'n' then some '\n'
  else if c = 'r' then some '\r'
  else if c = 't' then some '\t'
  else none

def scanChar : Reader Char Char
  | [] => none
  | c :: rest =>
    if c = '\\' then
      match rest with
      | [] => none
      | e :: rest => if e = 'u' then scanUnicode rest else (backslash e).map (fun d => (d, rest))
    else if c.toNat < 0x20 then none
    else some (c, rest)

def scanString : ℕ → Reader Char Text
  | _, [] => none
  | n, c :: rest =>
    if c = '"' then some ([], rest)
    else
      match n with
      | 0 => none
      | n + 1 =>
        match scanChar (c :: rest) with
        | none => none
        | some (d, rest) => (scanString n rest).map (fun (s, rest) => (d :: s, rest))

def scanDigits (mark rest : Text) : Text × Text :=
  match rest.takeWhile Char.isDigit with
  | [] => ([], mark ++ rest)
  | digits => (mark ++ digits, rest.dropWhile Char.isDigit)

def scanFraction : Text → Text × Text
  | [] => ([], [])
  | c :: rest => if c = '.' then scanDigits ['.'] rest else ([], c :: rest)

def scanExponent : Text → Text × Text
  | [] => ([], [])
  | e :: rest =>
    if e = 'e' || e = 'E' then
      match rest with
      | [] => ([], [e])
      | c :: rest' => if c = '+' || c = '-' then scanDigits [e, c] rest' else scanDigits [e] rest
    else ([], e :: rest)

def scanInteger : Reader Char Text
  | [] => none
  | c :: rest =>
    if c = '0' then some (['0'], rest)
    else if c.isDigit then some (c :: rest.takeWhile Char.isDigit, rest.dropWhile Char.isDigit)
    else none

def scanSign : Text → Text × Text
  | [] => ([], [])
  | c :: rest => if c = '-' then (['-'], rest) else ([], c :: rest)

def intOf (sign integer : Text) : ℤ :=
  if sign = [] then Nat.ofDigitChars 10 integer 0 else -(Nat.ofDigitChars 10 integer 0 : ℤ)

def scanNumber (float : Text → PyFloat) (text : Text) : Option (Json × Text) :=
  let (sign, rest) := scanSign text
  match scanInteger rest with
  | none => none
  | some (integer, rest) =>
    let (fraction, rest) := scanFraction rest
    let (exponent, rest) := scanExponent rest
    if fraction = [] ∧ exponent = [] then some (.int (intOf sign integer), rest)
    else some (.float (float (sign ++ integer ++ fraction ++ exponent)), rest)

def literals : List (Text × Json) :=
  [("null".toList, .null), ("true".toList, .bool true), ("false".toList, .bool false),
    ("NaN".toList, .float .nan), ("Infinity".toList, .float (.infinity false)),
    ("-Infinity".toList, .float (.infinity true))]

def scanLiteral (text : Text) : Option (Json × Text) :=
  literals.findSome? (fun (word, value) =>
    if word.isPrefixOf text then some (value, text.drop word.length) else none)

def scanEntry (value : Reader Char Json) (n : ℕ) : Reader Char (Text × Json)
  | [] => none
  | c :: rest =>
    if c = '"' then
      match scanString n rest with
      | none => none
      | some (key, rest) =>
        match rest.dropWhile isBlank with
        | [] => none
        | c :: rest =>
          if c = ':' then
            (value (rest.dropWhile isBlank)).map (fun (value, rest) => ((key, value), rest))
          else none
    else none

/-- A key that comes again keeps its place and takes the new value. -/
def dict (entries : List (Text × Json)) : List (Text × Json) :=
  (entries.foldl (fun d entry => d.set entry.1 entry.2) OrderedDict.empty).entries

/-- `scan_once`; each value takes at least one character, which the fuel stands for. -/
def scanOnce (float : Text → PyFloat) : ℕ → Reader Char Json
  | 0, _ => none
  | _, [] => none
  | n + 1, c :: rest =>
    if c = '"' then (scanString n rest).map (fun (s, rest) => (.str s, rest))
    else if c = '\x7b' then
      (readDelimited isBlank ',' '\x7d' (scanEntry (scanOnce float n) n) n rest).map
        (fun (entries, rest) => (.map (dict entries), rest))
    else if c = '[' then
      (readDelimited isBlank ',' ']' (scanOnce float n) n rest).map
        (fun (items, rest) => (.list items, rest))
    else
      match scanLiteral (c :: rest) with
      | some read => some read
      | none => scanNumber float (c :: rest)

/-- `json.loads`, none where it raises. -/
def loads (float : Text → PyFloat) (text : Text) : Option Json :=
  match scanOnce float text.length (text.dropWhile isBlank) with
  | none => none
  | some (value, rest) => if (rest.dropWhile isBlank).isEmpty then some value else none

end Json

end GcpMonitor.Python
