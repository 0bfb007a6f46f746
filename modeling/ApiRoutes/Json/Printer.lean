import ApiRoutes.Data.Content
import ApiRoutes.Decimal.Shortest

/-!
# Writing JSON

Data as a JSON text, on one line or indented by two spaces. Quotes, backslashes and control
characters are escaped, everything else stands for itself. A floating-point number is written with
the fewest digits that read back, without an exponent between `1e-5` and `1e16`.
-/

namespace ApiRoutes.JsonText

open Decimal (FloatFormat Number)

/-- Floating-point numbers: positional from `1e-5` up to `1e16`, else with a signed exponent. -/
def floats : FloatFormat := ⟨"+", .toEven, fun power => -5 ≤ power && power < 16⟩

def hexDigits : List Char := "0123456789abcdef".toList

/-- A character as it stands inside quotes. -/
def escapeChar (c : Char) : List Char :=
  match c with
  | '"' => ['\\', '"']
  | '\\' => ['\\', '\\']
  | '\n' => ['\\', 'n']
  | '\r' => ['\\', 'r']
  | '\t' => ['\\', 't']
  | '\x08' => ['\\', 'b']
  | '\x0c' => ['\\', 'f']
  | c =>
    if c.toNat < 0x20 then
      ['\\', 'u', '0', '0', hexDigits.getD (c.toNat / 16) '0', hexDigits.getD (c.toNat % 16) '0']
    else [c]

def quote (s : String) : String := String.ofList ('"' :: s.toList.flatMap escapeChar ++ ['"'])

def number : Number → String
  | .int n => toString n
  | .float x => if x.isFinite then floats.write x else "null"

/-- A key; only texts are keys of a JSON record. -/
def key : Key → String
  | .name s => quote s
  | .index n => quote (toString n)
  | .other => quote ""

def indent (depth : Nat) : String := String.ofList (List.replicate (2 * depth) ' ')

mutual

/-- Data on one line. -/
def compact : Content → String
  | .null => "null"
  | .bool b => if b then "true" else "false"
  | .number n => number n
  | .text s => quote s
  | .list items => "[" ++ compactItems items ++ "]"
  | .record entries => "\x7b" ++ compactEntries entries ++ "\x7d"

def compactItems : List Content → String
  | [] => ""
  | [item] => compact item
  | item :: items => compact item ++ "," ++ compactItems items

def compactEntries : List (Key × Content) → String
  | [] => ""
  | [(k, v)] => key k ++ ":" ++ compact v
  | (k, v) :: rest => key k ++ ":" ++ compact v ++ "," ++ compactEntries rest

end

mutual

/-- Data on indented lines. An empty container stays on its line. -/
def pretty (depth : Nat) : Content → String
  | .null => "null"
  | .bool b => if b then "true" else "false"
  | .number n => number n
  | .text s => quote s
  | .list [] => "[]"
  | .list (item :: items) =>
    "[\n" ++ prettyItems (depth + 1) (item :: items) ++ "\n" ++ indent depth ++ "]"
  | .record [] => "\x7b\x7d"
  | .record (entry :: entries) =>
    "\x7b\n" ++ prettyEntries (depth + 1) (entry :: entries) ++ "\n" ++ indent depth ++ "\x7d"

def prettyItems (depth : Nat) : List Content → String
  | [] => ""
  | [item] => indent depth ++ pretty depth item
  | item :: items => indent depth ++ pretty depth item ++ ",\n" ++ prettyItems depth items

def prettyEntries (depth : Nat) : List (Key × Content) → String
  | [] => ""
  | [(k, v)] => indent depth ++ key k ++ ": " ++ pretty depth v
  | (k, v) :: rest =>
    indent depth ++ key k ++ ": " ++ pretty depth v ++ ",\n" ++ prettyEntries depth rest

end

end ApiRoutes.JsonText
