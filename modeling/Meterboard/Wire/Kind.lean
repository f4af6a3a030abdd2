import Meterboard.Wire.Value

/-!
# Kinds of values

What a message looks like on the wire is said once, as a kind.  A reader of either format is told
the kind and yields a value of it or refuses, so the rules for missing, unknown and repeated fields
are the same in both.

* `Wire.Kind`, `Wire.Fields` — the shapes of values and of records.
* `Kind.absent?` — what stands for a field that is not there.
* `Fields.assemble?` — a record in the order of its kind from what was read in any order.
-/

namespace Meterboard.Wire

/-- Whether a field of a record has to be there. -/
inductive Presence where
  /-- A record without the field is refused. -/
  | required
  /-- The field may be missing or null, and is then left out. -/
  | optional
  /-- The field may be missing and then has its empty value. -/
  | defaulted
deriving DecidableEq, Repr

mutual

/-- The shape of a value. -/
inductive Kind where
  /-- True or false. -/
  | flag
  /-- A natural number below two to the given power. -/
  | natural (width : Nat)
  /-- A double. -/
  | double
  /-- Any text. -/
  | text
  /-- One of these texts. -/
  | choice (names : List String)
  /-- A list of values of one shape. -/
  | list (item : Kind)
  /-- A record of known fields; others are read over. -/
  | record (fields : Fields)
  /-- A set of texts under keys of any name. -/
  | labels

/-- The fields of a record, in the order in which they are written. -/
inductive Fields where
  | nil
  | cons (name : String) (presence : Presence) (kind : Kind) (rest : Fields)

end

/-- The empty value of a kind, for the fields that have one: no, or no items. -/
def Kind.empty : Kind → Value
  | .flag => .flag false
  | .list _ => .list []
  | _ => .null

/-- The names of the fields. -/
def Fields.names : Fields → List String
  | .nil => []
  | .cons name _ _ rest => name :: rest.names

/-- What stands for a field that is not in the input: nothing at all, its empty value, or a
refusal. -/
def absent? (name : String) (presence : Presence) (kind : Kind) :
    Option (List (String × Value)) :=
  match presence with
  | .required => none
  | .optional => some []
  | .defaulted => some [(name, kind.empty)]

/-- A record in the order of its fields from the values that were found for them.  An optional
field that was found null counts as absent. -/
def Fields.assemble? (found : String → Option Value) : Fields → Option (List (String × Value))
  | .nil => some []
  | .cons name presence kind rest => do
      let here ←
        match found name with
        | none => absent? name presence kind
        | some .null => some []
        | some v => some [(name, v)]
      return here ++ (← rest.assemble? found)

end Meterboard.Wire
