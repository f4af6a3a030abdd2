import Meterboard.Text.Printable

/-!
# Text

What the library reads and writes at the level of characters: runs of digits, white space, text in
quotes, and the log.

* `Text.valueOf`, `Text.natural?` — the number that a run of ASCII digits stands for, and a text
  that is such a run.
* `Text.padded`, `Text.hex` — a number with zeros in front up to a width, and in hexadecimal.
* `Text.isBlank` — the Unicode property of white space: 25 code points in ten ranges, of which
  core's `Char.isWhitespace` knows four.
* `Text.trim`, `Text.withoutTrailing` — a text without the blanks at both ends, or without one
  character's run at its end.
* `Text.quoted` — a text between double quotes, so that its blanks and its end can be seen.
* `Log.Entry`, `Log.shown` — a message with a level, and the entries that a log of some level keeps.
-/

namespace Meterboard

namespace Text

/-! ## Digits -/

/-- The value of one ASCII digit. -/
def digitValue (c : Char) : Nat := c.toNat - '0'.toNat

/-- The number that a run of digits stands for, most significant first. -/
def valueOf (digits : List Char) : Nat :=
  digits.foldl (fun n c => 10 * n + digitValue c) 0

/-- A text of one or more ASCII digits and nothing else, as a number. -/
def natural? (s : List Char) : Option Nat :=
  if s.isEmpty || !s.all Char.isDigit then none else some (valueOf s)

/-- As `natural?`, with one plus sign allowed in front. -/
def unsigned? : List Char → Option Nat
  | '+' :: s => natural? s
  | s => natural? s

/-- The decimal digits of a number. -/
def decimal (n : Nat) : List Char := (toString n).toList

/-- A number in at least `width` digits, with zeros in front. -/
def padded (width n : Nat) : List Char :=
  List.leftpad width '0' (decimal n)

/-- A number as lower-case hexadecimal digits, without leading zeros. -/
def hex (n : Nat) : List Char := Nat.toDigits 16 n

/-- The value of a hexadecimal digit, in either case. -/
def hexValue? (c : Char) : Option Nat :=
  if '0' ≤ c ∧ c ≤ '9' then some (c.toNat - '0'.toNat)
  else if 'a' ≤ c ∧ c ≤ 'f' then some (c.toNat - 'a'.toNat + 10)
  else if 'A' ≤ c ∧ c ≤ 'F' then some (c.toNat - 'A'.toNat + 10)
  else none

/-- The number that a run of hexadecimal digits stands for, if every character is one. -/
def hexNatural? (s : List Char) : Option Nat :=
  s.foldl (fun n c => do return 16 * (← n) + (← hexValue? c)) (some 0)

/-! ## White space -/

/-- Closed ranges of the white-space code points, ascending and apart. -/
def blankRanges : List (Nat × Nat) :=
  [(0x09, 0x0D), (0x20, 0x20), (0x85, 0x85), (0xA0, 0xA0), (0x1680, 0x1680), (0x2000, 0x200A),
   (0x2028, 0x2029), (0x202F, 0x202F), (0x205F, 0x205F), (0x3000, 0x3000)]

/-- A character is blank when it has the white-space property. -/
def isBlank (c : Char) : Bool :=
  blankRanges.any fun r => r.1 ≤ c.toNat && c.toNat ≤ r.2

/-- What is left of a text once its leading blanks are gone. -/
def trimLeft (s : List Char) : List Char := s.dropWhile isBlank

/-- A text without the blanks at its two ends. -/
def trimChars (s : List Char) : List Char := (trimLeft (trimLeft s).reverse).reverse

/-- A text without the blanks at its two ends. -/
def trim (s : String) : String := String.ofList (trimChars s.toList)

/-- A text without the characters at its end that are `c`. -/
def withoutTrailing (c : Char) (s : String) : String :=
  String.ofList (s.toList.reverse.dropWhile (· = c)).reverse

/-! ## Quotes -/

/-- One character inside quotes: the quote, the backslash and four controls have letters of their
own, a character that would not be seen is written by its code point, and all else stands for
itself. -/
def escape (c : Char) : List Char :=
  match c with
  | '\x00' => ['\\', '0']
  | '\t' => ['\\', 't']
  | '\r' => ['\\', 'r']
  | '\n' => ['\\', 'n']
  | '"' => ['\\', '"']
  | '\\' => ['\\', '\\']
  | c => if isVisible c then [c] else ['\\', 'u', '\x7b'] ++ hex c.toNat ++ ['\x7d']

/-- A text between double quotes. -/
def quoted (s : String) : String :=
  String.ofList ('"' :: s.toList.flatMap escape ++ ['"'])

end Text

/-! ## Log entries

Everything the library has to say about a step it says as a list of entries beside the result of the
step; the program writes them to its log. -/

namespace Log

/-- How much an entry matters, the most important level first. -/
inductive Level where
  | error
  | warn
  | info
  | debug
  | trace
deriving DecidableEq, Repr

/-- The name of a level as entries show it. -/
def Level.name : Level → String
  | .error => "ERROR"
  | .warn => "WARN"
  | .info => "INFO"
  | .debug => "DEBUG"
  | .trace => "TRACE"

/-- All levels, the most important one first. -/
def Level.all : List Level := [.error, .warn, .info, .debug, .trace]

/-- The level of a name, in capitals or not. -/
def Level.ofName? (name : String) : Option Level :=
  Level.all.find? fun l => l.name.toList = name.toList.map Char.toUpper

/-- One message. -/
structure Entry where
  level : Level
  message : String
deriving DecidableEq, Repr

/-- The entry on one line. -/
def Entry.text (e : Entry) : String := e.level.name ++ " " ++ e.message

/-- The entries that a log keeps which is set to the level of a name: those of that level and the
more important ones.  A log whose level has no such name keeps failures only. -/
def shown (levelName : String) (entries : List Entry) : List Entry :=
  let least := ((Level.ofName? levelName).getD .error)
  entries.filter fun e => Level.all.idxOf e.level ≤ Level.all.idxOf least

end Log

end Meterboard
