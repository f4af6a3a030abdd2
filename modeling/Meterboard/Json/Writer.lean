import Meterboard.Double.Decimal
import Meterboard.Wire.Value

/-!
# Writing JSON

* `Json.compact` — a value on one line without blanks.
* `Json.pretty` — a value over several lines, two blanks deeper at each level.
-/

namespace Meterboard.Json

open Wire (Value)

/-- One character inside quotes: the quote, the backslash and five controls have letters of their
own, the other controls are written by their code, and all else stands for itself. -/
def escape (c : Char) : List Char :=
  match c with
  | '"' => ['\\', '"']
  | '\\' => ['\\', '\\']
  | '\x08' => ['\\', 'b']
  | '\x0c' => ['\\', 'f']
  | '\n' => ['\\', 'n']
  | '\r' => ['\\', 'r']
  | '\t' => ['\\', 't']
  | c =>
      if c.toNat < 0x20 then ['\\', 'u'] ++ List.leftpad 4 '0' (Text.hex c.toNat) else [c]

/-- A text between quotes. -/
def quoted (s : String) : List Char := '"' :: s.toList.flatMap escape ++ ['"']

/-- A value that is neither a list nor a record. -/
def scalar : Value → List Char
  | .null => ['n', 'u', 'l', 'l']
  | .flag true => ['t', 'r', 'u', 'e']
  | .flag false => ['f', 'a', 'l', 's', 'e']
  | .natural n => Text.decimal n
  | .double x => (x.text Double.json).toList
  | .text s => quoted s
  | .list _ => []
  | .record _ => []

mutual

/-- The characters of a value on one line. -/
def chars : Value → List Char
  | .list items => '[' :: itemsText items ++ [']']
  | .record entries => '\x7b' :: entriesText entries ++ ['\x7d']
  | .null => scalar .null
  | .flag b => scalar (.flag b)
  | .natural n => scalar (.natural n)
  | .double x => scalar (.double x)
  | .text s => scalar (.text s)

/-- The first of some items and what follows it. -/
def itemsText : List Value → List Char
  | [] => []
  | v :: rest => chars v ++ itemsAfter rest

/-- Items that follow another one. -/
def itemsAfter : List Value → List Char
  | [] => []
  | v :: rest => ',' :: chars v ++ itemsAfter rest

/-- The first of some entries and what follows it. -/
def entriesText : List (String × Value) → List Char
  | [] => []
  | (k, v) :: rest => quoted k ++ ':' :: chars v ++ entriesAfter rest

/-- Entries that follow another one. -/
def entriesAfter : List (String × Value) → List Char
  | [] => []
  | (k, v) :: rest => ',' :: quoted k ++ ':' :: chars v ++ entriesAfter rest

end

/-- A value on one line without blanks. -/
def compact (v : Value) : String := String.ofList (chars v)

/-- The start of a line at a depth. -/
def newline (depth : Nat) : List Char := '\n' :: List.replicate (2 * depth) ' '

mutual

/-- The characters of a value over several lines, from a depth on. -/
def indented (depth : Nat) : Value → List Char
  | .list [] => ['[', ']']
  | .list (v :: rest) =>
      '[' :: newline (depth + 1) ++ indented (depth + 1) v ++ itemLines depth rest
        ++ newline depth ++ [']']
  | .record [] => ['\x7b', '\x7d']
  | .record ((k, v) :: rest) =>
      '\x7b' :: newline (depth + 1) ++ quoted k ++ ':' :: ' ' :: indented (depth + 1) v
        ++ entryLines depth rest ++ newline depth ++ ['\x7d']
  | .null => scalar .null
  | .flag b => scalar (.flag b)
  | .natural n => scalar (.natural n)
  | .double x => scalar (.double x)
  | .text s => scalar (.text s)

/-- Items after the first, each on a line of its own. -/
def itemLines (depth : Nat) : List Value → List Char
  | [] => []
  | v :: rest => ',' :: newline (depth + 1) ++ indented (depth + 1) v ++ itemLines depth rest

/-- Entries after the first, each on a line of its own. -/
def entryLines (depth : Nat) : List (String × Value) → List Char
  | [] => []
  | (k, v) :: rest =>
      ',' :: newline (depth + 1) ++ quoted k ++ ':' :: ' ' :: indented (depth + 1) v
        ++ entryLines depth rest

end

/-- A value over several lines. -/
def pretty (v : Value) : String := String.ofList (indented 0 v)

end Meterboard.Json
