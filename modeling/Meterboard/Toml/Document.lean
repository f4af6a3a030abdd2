import Meterboard.Toml.Scalar

/-!
# TOML texts

A TOML text is a list of lines.  A line sets a key, or opens the table that the keys below it belong
to.  A table may be opened once, and what was written as one value stays as it was written.

* `Toml.Draft` — a table while it is being read, with the way in which it came up.
* `Toml.value` — a value after an equals sign.
* `Toml.parse?` — a whole text as the entries of its root table.
-/

namespace Meterboard.Toml

/-! ## Tables while they are read -/

/-- How a table came up; only some may be opened or extended later. -/
inductive Origin where
  /-- On the way to a table further down. -/
  | implied
  /-- By a header of its own. -/
  | opened
  /-- By a key with dots. -/
  | dotted
deriving DecidableEq, Repr

/-- A node while the text is read. -/
inductive Draft where
  /-- A value, which is final. -/
  | value (v : Value)
  | table (origin : Origin) (entries : List (String × Draft))
  /-- Tables under one header, the last of which is open. -/
  | tables (items : List (List (String × Draft)))

/-- The entries of a table that is being read. -/
abbrev Entries := List (String × Draft)

/-- The node of a key. -/
def lookup (es : Entries) (k : String) : Option Draft := (es.find? (·.1 == k)).map (·.2)

/-- Put a node under a key, in its old place if there was one. -/
def put (es : Entries) (k : String) (d : Draft) : Entries :=
  if es.any (·.1 == k) then es.map fun e => if e.1 == k then (k, d) else e else es ++ [(k, d)]

/-- Go down the keys of a header to the table it names a child of, and change that table.  Tables on
the way are made where there are none; of tables under one header the last is meant. -/
def below (change : Entries → Option Entries) : List String → Entries → Option Entries
  | [], es => change es
  | k :: ks, es => do
      match lookup es k with
      | none => return put es k (.table .implied (← below change ks []))
      | some (.table origin inner) => return put es k (.table origin (← below change ks inner))
      | some (.tables items) =>
          return put es k (.tables (items.dropLast ++ [← below change ks (items.getLast?.getD [])]))
      | some (.value _) => none

/-- Open a table by a header.  One that is only implied so far may be opened. -/
def openTable (k : String) (es : Entries) : Option Entries :=
  match lookup es k with
  | none => some (put es k (.table .opened []))
  | some (.table .implied inner) => some (put es k (.table .opened inner))
  | _ => none

/-- Open one more table under a header. -/
def openNext (k : String) (es : Entries) : Option Entries :=
  match lookup es k with
  | none => some (put es k (.tables [[]]))
  | some (.tables items) => some (put es k (.tables (items ++ [[]])))
  | _ => none

/-- Set a key in a table, going down its dots.  A table that a header opened is not extended that
way, and a key is set once. -/
def assign (v : Value) : List String → Entries → Option Entries
  | [], _ => none
  | [k], es => if (lookup es k).isSome then none else some (put es k (.value v))
  | k :: ks, es => do
      match lookup es k with
      | none => return put es k (.table .dotted (← assign v ks []))
      | some (.table .dotted inner) => return put es k (.table .dotted (← assign v ks inner))
      | some (.table .implied inner) =>
          if ks.length < 2 then none
          else return put es k (.table .implied (← assign v ks inner))
      | _ => none

mutual

/-- A node that is read to its end. -/
def finish : Draft → Value
  | .value v => v
  | .table _ es => .table (finishEntries es)
  | .tables items => .list (finishTables items)

/-- The entries of a table that is read to its end. -/
def finishEntries : List (String × Draft) → List (String × Value)
  | [] => []
  | (k, d) :: rest => (k, finish d) :: finishEntries rest

/-- Tables that are read to their end. -/
def finishTables : List (List (String × Draft)) → List Value
  | [] => []
  | es :: rest => .table (finishEntries es) :: finishTables rest

end

/-! ## Keys and gaps -/

/-- A character of a key without quotes. -/
def isBare (c : Char) : Bool := c.isAlphanum || c = '_' || c = '-'

/-- Blanks on a line. -/
def blanks : Reader Unit := do
  let _ ← takeWhile fun c => c = ' ' || c = '\t'

/-- One part of a key. -/
def keyPart : Reader String := do
  match ← peek with
  | some '"' => quotedLine '"'
  | some '\'' => quotedLine '\''
  | _ =>
      let cs ← takeWhile isBare
      if cs.isEmpty then refuse else return String.ofList cs

/-- The parts of a key, with dots between them. -/
def keyParts : Nat → Reader (List String)
  | 0 => refuse
  | fuel + 1 => do
      blanks
      let k ← keyPart
      blanks
      if ← accept ['.'] then return k :: (← keyParts fuel) else return [k]

/-- A key: one part or more. -/
def key : Reader (List String) := do keyParts ((← get).length + 1)

/-- A comment, if there is one. -/
def comment : Reader Unit := do
  if (← peek) = some '#' then
    let cs ← takeWhile fun c => c ≠ '\n' && c ≠ '\r'
    if cs.any isControl then refuse

/-- The end of a line, or of the text. -/
def lineEnd : Reader Unit := fun s =>
  match s with
  | [] => some ((), [])
  | '\n' :: rest => some ((), rest)
  | '\r' :: '\n' :: rest => some ((), rest)
  | _ => none

/-- Blanks, comments and line ends between the items of a list. -/
def gaps : Nat → Reader Unit
  | 0 => refuse
  | fuel + 1 => do
      blanks
      match ← peek with
      | some '#' => comment; gaps fuel
      | some '\n' => skip 1; gaps fuel
      | some '\r' => expect ['\r', '\n']; gaps fuel
      | _ => return

/-- Any number of blanks, comments and line ends. -/
def gap : Reader Unit := do gaps ((← get).length + 1)

/-! ## Values -/

/-- A character of a value without quotes or brackets. -/
def isWordChar (c : Char) : Bool :=
  c.isAlphanum || c = '_' || c = '-' || c = '+' || c = '.' || c = ':'

/-- The characters of a word.  A blank between a date and a time belongs to it. -/
def word : Reader (List Char) := fun s =>
  let front := s.takeWhile isWordChar
  let rest := s.dropWhile isWordChar
  match rest with
  | ' ' :: d :: more =>
      if (dayPart? front).any (·.2.isEmpty) && d.isDigit then
        some (front ++ ' ' :: (d :: more).takeWhile isWordChar, (d :: more).dropWhile isWordChar)
      else some (front, rest)
  | _ => some (front, rest)

/-- A value that is one word. -/
def wordValue : Reader Value := do
  let w ← word
  if w = ['t', 'r', 'u', 'e'] then return .flag true
  if w = ['f', 'a', 'l', 's', 'e'] then return .flag false
  match number? w with
  | some v => return v
  | none =>
      match date? w with
      | some v => return v
      | none => refuse

mutual

/-- A value; the fuel bounds how many values and keys it may hold. -/
def valueWithin : Nat → Reader Value
  | 0 => refuse
  | fuel + 1 => do
      match ← peek with
      | some '"' => return .text (← string)
      | some '\'' => return .text (← string)
      | some '[' => skip 1; return .list (← listItems fuel)
      | some '\x7b' =>
          skip 1
          blanks
          if ← accept ['\x7d'] then return .table []
          else return .table (finishEntries (← inlineEntries fuel []))
      | _ => wordValue

/-- The items of a list and its end; a comma may follow the last. -/
def listItems : Nat → Reader (List Value)
  | 0 => refuse
  | fuel + 1 => do
      gap
      if ← accept [']'] then return []
      let v ← valueWithin fuel
      gap
      if ← accept [','] then return v :: (← listItems fuel)
      expect [']']
      return [v]

/-- The entries of a table on one line and its end. -/
def inlineEntries : Nat → Entries → Reader Entries
  | 0, _ => refuse
  | fuel + 1, es => do
      let ks ← key
      expect ['=']
      blanks
      let v ← valueWithin fuel
      match assign v ks es with
      | none => refuse
      | some es =>
          blanks
          if ← accept [','] then inlineEntries fuel es
          else
            expect ['\x7d']
            return es

end

/-- A value. -/
def value : Reader Value := do valueWithin ((← get).length + 1)

/-! ## Lines -/

/-- What has been read of a text: the root table and the header that is open. -/
structure State where
  root : Entries
  header : List String

/-- A header in brackets, single or double. -/
def header (s : State) : Reader State := do
  let double ← accept ['[', '[']
  if !double then expect ['[']
  let ks ← key
  expect (if double then [']', ']'] else [']'])
  let change := fun k => if double then openNext k else openTable k
  match ks.getLast? with
  | none => refuse
  | some k =>
      match below (change k) ks.dropLast s.root with
      | some root => return ⟨root, ks⟩
      | none => refuse

/-- A key with its value. -/
def setting (s : State) : Reader State := do
  let ks ← key
  expect ['=']
  blanks
  let v ← value
  match below (assign v ks) s.header s.root with
  | some root => return { s with root }
  | none => refuse

/-- The lines of a text. -/
def textLines : Nat → State → Reader State
  | 0, _ => refuse
  | fuel + 1, s => do
      blanks
      let s ←
        match ← peek with
        | none => pure s
        | some '#' => pure s
        | some '\n' => pure s
        | some '\r' => pure s
        | some '[' => header s
        | some _ => setting s
      blanks
      comment
      lineEnd
      if (← get).isEmpty then return s else textLines fuel s

/-- The text without the byte order mark it may start with. -/
def withoutMark (s : List Char) : List Char :=
  match s with
  | c :: rest => if c = '\uFEFF' then rest else s
  | [] => []

/-- The root table of a text. -/
def parse? (s : String) : Option (List (String × Value)) := do
  let cs := withoutMark s.toList
  let (state, _) ← textLines (cs.length + 1) ⟨[], []⟩ cs
  return finishEntries state.root

end Meterboard.Toml
