import Meterboard.Double

/-!
# Wire values

Messages travel in two formats, a binary one to the store and JSON for export and inspection.  Both
write and read the same tree of values, so a message is turned into a tree once, and each format
only has to know trees.

* `Wire.Value` — the tree.
* `Value.field?`, `Value.required?`, `Value.optional?` — how a message is taken out of a record.
* `Value.sorted` — a tree with the keys of its records in ascending order.
-/

namespace Meterboard.Wire

/-- A tree of values.  The entries of a record keep their order. -/
inductive Value where
  | null
  | flag (b : Bool)
  | natural (n : Nat)
  | double (x : Double)
  | text (s : String)
  | list (items : List Value)
  | record (entries : List (String × Value))
deriving Inhabited

namespace Value

/-! ## Building records -/

/-- A field that is always written. -/
def always (name : String) (v : Value) : List (String × Value) := [(name, v)]

/-- A field that is written when it has a value. -/
def whenSome {α : Type} (name : String) (f : α → Value) : Option α → List (String × Value)
  | none => []
  | some a => [(name, f a)]

/-- A text, or null. -/
def textOrNull : Option String → Value
  | none => .null
  | some s => .text s

/-! ## Taking trees apart -/

/-- The value of a field in a record. -/
def field? (v : Value) (name : String) : Option Value :=
  match v with
  | .record entries => (entries.find? (·.1 == name)).map (·.2)
  | _ => none

/-- A truth value. -/
def asFlag? : Value → Option Bool
  | .flag b => some b
  | _ => none

/-- A natural number. -/
def asNatural? : Value → Option Nat
  | .natural n => some n
  | _ => none

/-- A double. -/
def asDouble? : Value → Option Double
  | .double x => some x
  | _ => none

/-- A text. -/
def asText? : Value → Option String
  | .text s => some s
  | _ => none

/-- A list whose items are all read by `f`. -/
def asList? {α : Type} (f : Value → Option α) : Value → Option (List α)
  | .list items => items.mapM f
  | _ => none

/-- A field that must be there. -/
def required? {α : Type} (f : Value → Option α) (v : Value) (name : String) : Option α :=
  (v.field? name).bind f

/-- A field that may be absent; one that is there must be read by `f`. -/
def optional? {α : Type} (f : Value → Option α) (v : Value) (name : String) : Option (Option α) :=
  match v.field? name with
  | none => some none
  | some w => (f w).map some

/-! ## Sorting -/

/-- Put an entry into entries with ascending keys. -/
def insertEntry (e : String × Value) : List (String × Value) → List (String × Value)
  | [] => [e]
  | f :: rest => if e.1 < f.1 then e :: f :: rest else f :: insertEntry e rest

/-- The record with the keys in ascending order; what the entries hold stays as it is. -/
def sorted : Value → Value
  | .record entries => .record (entries.foldr insertEntry [])
  | v => v

end Value

end Meterboard.Wire
