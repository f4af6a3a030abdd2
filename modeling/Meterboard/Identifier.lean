import Meterboard.Labels

/-!
# Identifiers

A stream is named by a metric and its labels: `name{key=value,...}`.  The text has no escapes, so a
comma in a value, or an equals sign in a key, does not survive being written and read.

* `Identifier.parse?` — read the text; nothing when it has no `{...}` part, an empty name or empty
  braces.
* `Identifier.text` — write it, labels in ascending order of their keys.
-/

namespace Meterboard

/-- A metric name with labels. -/
structure Identifier where
  name : String
  labels : Labels
deriving DecidableEq

namespace Identifier

/-- The label that tells the host a stream was collected from. -/
def hostLabel : String := "hostname"

/-- The label that tells the network interface a stream describes. -/
def interfaceLabel : String := "interface"

/-- A bare metric. -/
def ofName (name : String) : Identifier := ⟨name, Labels.empty⟩

instance : Inhabited Identifier := ⟨ofName ""⟩

/-- The identifier with a label set, or set anew. -/
def withLabel (id : Identifier) (key value : String) : Identifier :=
  ⟨id.name, id.labels.insert key value⟩

/-- The value of a label. -/
def label? (id : Identifier) (key : String) : Option String := id.labels.get? key

/-! ## Reading -/

/-- The parts of a text before and after the first `c`. -/
def splitFirst? (c : Char) : List Char → Option (List Char × List Char)
  | [] => none
  | d :: s => if d = c then some ([], s) else (splitFirst? c s).map fun p => (d :: p.1, p.2)

/-- The part of a text before the last `c`. -/
def beforeLast? (c : Char) : List Char → Option (List Char)
  | [] => none
  | d :: s =>
      match beforeLast? c s with
      | some p => some (d :: p)
      | none => if d = c then some [] else none

/-- The pieces of a text between its `c`s: one piece more than there are `c`s. -/
def pieces (c : Char) : List Char → List (List Char)
  | [] => [[]]
  | d :: s =>
      if d = c then [] :: pieces c s
      else
        match pieces c s with
        | [] => [[d]]
        | p :: ps => (d :: p) :: ps

/-- One `key=value` segment; without an equals sign the whole segment is a key with no value. -/
def entryOf (segment : List Char) : String × String :=
  match splitFirst? '=' segment with
  | some (k, v) => (String.ofList k, String.ofList v)
  | none => (String.ofList segment, "")

/-- The labels between the braces: segments between commas, each at its first equals sign; a
repeated key keeps its last value. -/
def labelsOf (body : List Char) : Labels :=
  Labels.ofList ((pieces ',' body).map entryOf)

/-- Read `name{key=value,...}` from its characters. -/
def parseChars? (s : List Char) : Option Identifier := do
  let (name, rest) ← splitFirst? '\x7b' s
  let body ← beforeLast? '\x7d' rest
  if name.isEmpty || body.isEmpty then none
  else some ⟨String.ofList name, labelsOf body⟩

/-- Read `name{key=value,...}`.  The name ends at the first opening brace, the labels at the last
closing brace, and what follows that brace is ignored. -/
def parse? (s : String) : Option Identifier := parseChars? s.toList

/-! ## Writing -/

/-- Entries as `key=value` with commas between. -/
def entriesText : List (String × String) → List Char
  | [] => []
  | [(k, v)] => k.toList ++ '=' :: v.toList
  | (k, v) :: e :: es => k.toList ++ '=' :: v.toList ++ ',' :: entriesText (e :: es)

/-- The characters of the written form; a bare metric has no braces. -/
def chars (id : Identifier) : List Char :=
  if id.labels.entries.isEmpty then id.name.toList
  else id.name.toList ++ '\x7b' :: entriesText id.labels.entries ++ ['\x7d']

/-- The written form. -/
def text (id : Identifier) : String := String.ofList id.chars

end Identifier

end Meterboard
