import Meterboard.Cbor.Item
import Meterboard.Labels
import Meterboard.Wire.Kind

/-!
# Reading values from CBOR

* `Cbor.conform?` — an item as a value of a kind.
* `Cbor.read?` — bytes as a value of a kind; what follows the value is not looked at.
-/

namespace Meterboard.Cbor

open Wire (Value Kind Fields)

/-- The key of an entry: a text in one piece. -/
def key? : Item → Option String
  | .text s => some s
  | _ => none

/-- The entries of a map with text keys. -/
def textEntries? (entries : List (Item × Item)) : Option (List (String × Item)) :=
  entries.mapM fun e => (key? e.1).map fun k => (k, e.2)

/-- No name of the list is the key of two entries. -/
def distinctIn (names : List String) (entries : List (String × Item)) : Bool :=
  names.all fun n => (entries.filter (·.1 == n)).length ≤ 1

mutual

/-- An item as a value of a kind.  Only untagged items in their own major type will do; a float of
single precision counts as the double of its value. -/
def conform? : Kind → Item → Option Value
  | .flag, .flag b => some (.flag b)
  | .natural width, .unsigned n => if n < Nat.pow 2 width then some (.natural n) else none
  | .double, .double x => some (.double x)
  | .text, .text s => some (.text s)
  | .choice names, .text s => if names.contains s then some (.text s) else none
  | .list item, .list items => (items.mapM (conform? item)).map .list
  | .record fields, .map entries => do
      let es ← textEntries? entries
      if !distinctIn fields.names es then none
      let found ← found? fields es
      (fields.assemble? fun n => (found.find? (·.1 == n)).map (·.2)).map .record
  | .labels, .map entries => do
      let es ← textEntries? entries
      let ls ← es.mapM fun e => (key? e.2).map fun s => (e.1, s)
      return .record ((Labels.ofList ls).entries.map fun e => (e.1, .text e.2))
  | _, _ => none

/-- The values of the fields that are among the entries; an optional one may be null. -/
def found? : Fields → List (String × Item) → Option (List (String × Value))
  | .nil, _ => some []
  | .cons name presence kind rest, es => do
      let others ← found? rest es
      match es.find? (·.1 == name) with
      | none => return others
      | some (_, .null) => if presence = .optional then return (name, .null) :: others else none
      | some (_, item) => return (name, ← conform? kind item) :: others

end

/-- Bytes as a value of a kind. -/
def read? (kind : Kind) (bs : List UInt8) : Option Value := do
  let (item, _) ← item? bs
  conform? kind item

end Meterboard.Cbor
