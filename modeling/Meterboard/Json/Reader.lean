import Meterboard.Json.Number
import Meterboard.Labels
import Meterboard.Wire.Kind

/-!
# Reading JSON

A text is read as a value of a given kind.  Reading goes from left to right and stops at the first
fault, so a value of the wrong shape is noticed before a grammar fault behind it.  Fields that the
kind does not know are read past with less care: their numbers may be of any size and their texts
may hold halves of surrogate pairs.

* `Json.string`, `Json.skipString` — text between quotes.
* `Json.skip` — read past any value.
* `Json.value` — a value of a kind, off the front of a text.
* `Json.read` — a whole text as a value of a kind.
-/

namespace Meterboard.Json

open Wire (Value Kind Fields Presence)

/-- Blanks between tokens. -/
def isBlank (c : Char) : Bool := c = ' ' || c = '\n' || c = '\t' || c = '\r'

/-- Read past blanks and look at what follows. -/
def peekToken : Reader (Option Char) := fun s =>
  let rest := s.dropWhile isBlank
  .ok (rest.head?, rest)

/-- Read the rest of a word whose first letter is there. -/
def word : List Char → Reader Unit
  | [] => pure ()
  | c :: cs => do
      match ← next with
      | none => fail .truncated
      | some d => if c = d then word cs else fail .malformed

/-! ## Text -/

/-- Four hexadecimal digits.  What is shorter than four bytes was cut off. -/
def hexCode : Reader Nat := fun s =>
  match s with
  | a :: b :: c :: d :: rest =>
      match Text.hexNatural? [a, b, c, d] with
      | some n => .ok (n, rest)
      | none => .error .malformed
  | s => .error (if (String.ofList s).utf8ByteSize < 4 then .truncated else .malformed)

/-- The character an escape letter stands for, the code escape aside. -/
def escaped? : Char → Option Char
  | '"' => some '"'
  | '\\' => some '\\'
  | '/' => some '/'
  | 'b' => some '\x08'
  | 'f' => some '\x0c'
  | 'n' => some '\n'
  | 'r' => some '\r'
  | 't' => some '\t'
  | _ => none

/-- A character that has to come next. -/
def expect (c : Char) : Reader Unit := do
  match ← next with
  | none => fail .truncated
  | some d => if c ≠ d then fail .malformed

/-- A code unit escaped by its code, together with its second half when it is the first of a
surrogate pair.  Half a pair stands for nothing. -/
def codePoint : Reader Char := do
  let n ← hexCode
  if 0xDC00 ≤ n ∧ n ≤ 0xDFFF then fail .malformed
  if n < 0xD800 ∨ 0xDFFF < n then return Char.ofNat n
  expect '\\'
  expect 'u'
  let m ← hexCode
  if m < 0xDC00 ∨ 0xDFFF < m then fail .malformed
  return Char.ofNat (0x10000 + (n - 0xD800) * 0x400 + (m - 0xDC00))

/-- One escape after its backslash. -/
def escapeSequence : Reader Char := do
  match ← next with
  | none => fail .truncated
  | some 'u' => codePoint
  | some c =>
      match escaped? c with
      | some d => return d
      | none => fail .malformed

/-- The characters up to the closing quote; control characters have to be escaped. -/
def stringTail : Nat → Reader (List Char)
  | 0 => fail .truncated
  | fuel + 1 => do
      match ← next with
      | none => fail .truncated
      | some '"' => return []
      | some '\\' => do
          let c ← escapeSequence
          return c :: (← stringTail fuel)
      | some c => do
          if c.toNat < 0x20 then fail .malformed
          return c :: (← stringTail fuel)

/-- A text whose opening quote is next.  Every character of it takes at least one of the input. -/
def string : Reader String := fun s =>
  (do drop; return String.ofList (← stringTail (s.length + 1))) s

/-- Read past the characters up to the closing quote. -/
def skipStringTail : Nat → Reader Unit
  | 0 => fail .truncated
  | fuel + 1 => do
      match ← next with
      | none => fail .truncated
      | some '"' => return
      | some '\\' => do
          match ← next with
          | none => fail .truncated
          | some 'u' => let _ ← hexCode
          | some c => if (escaped? c).isNone then fail .malformed
          skipStringTail fuel
      | some c => do
          if c.toNat < 0x20 then fail .malformed
          skipStringTail fuel

/-- Read past a text whose opening quote is next. -/
def skipString : Reader Unit := fun s => (do drop; skipStringTail (s.length + 1)) s

/-! ## Values that are read past -/

/-- Read past the colon between a key and its value. -/
def colon : Reader Unit := do
  match ← peekToken with
  | none => fail .truncated
  | some ':' => drop
  | some _ => fail .malformed

mutual

/-- Read past a value. -/
def skipValue : Nat → Reader Unit
  | 0 => fail .truncated
  | fuel + 1 => do
      match ← peekToken with
      | none => fail .truncated
      | some 'n' => drop; word ['u', 'l', 'l']
      | some 't' => drop; word ['r', 'u', 'e']
      | some 'f' => drop; word ['a', 'l', 's', 'e']
      | some '"' => skipString
      | some '[' => drop; skipItems fuel true
      | some '\x7b' => drop; skipEntries fuel true
      | some c => if c = '-' ∨ c.isDigit then skipNumber else fail .malformed

/-- Read past the items of a list up to its end. -/
def skipItems : Nat → Bool → Reader Unit
  | 0, _ => fail .truncated
  | fuel + 1, first => do
      match ← peekToken with
      | none => fail .truncated
      | some ']' => drop
      | some c =>
          if !first then
            if c ≠ ',' then fail .malformed
            drop
          skipValue fuel
          skipItems fuel false

/-- Read past the entries of a record up to its end. -/
def skipEntries : Nat → Bool → Reader Unit
  | 0, _ => fail .truncated
  | fuel + 1, first => do
      match ← peekToken with
      | none => fail .truncated
      | some '\x7d' => drop
      | some c =>
          if !first then
            if c ≠ ',' then fail .malformed
            drop
          match ← peekToken with
          | none => fail .truncated
          | some '"' =>
              skipString
              colon
              skipValue fuel
              skipEntries fuel false
          | some _ => fail .malformed

end

/-- Read past any value. -/
def skip : Reader Unit := fun s => skipValue (s.length + 1) s

/-! ## Values of a kind -/

/-- Fail at a value that is not of the kind.  The value itself is read first, as far as it is a
word, a number or a text, because it may be faulty or cut off. -/
def mismatch {α : Type} : Reader α := do
  match ← peek with
  | none => fail .truncated
  | some 'n' => drop; word ['u', 'l', 'l']; fail .mismatched
  | some 't' => drop; word ['r', 'u', 'e']; fail .mismatched
  | some 'f' => drop; word ['a', 'l', 's', 'e']; fail .mismatched
  | some '"' => let _ ← string; fail .mismatched
  | some '[' => fail .mismatched
  | some '\x7b' => fail .mismatched
  | some c =>
      if c = '-' ∨ c.isDigit then
        let _ ← number
        fail .mismatched
      else fail .malformed

/-- A truth value. -/
def flag : Reader Value := do
  match ← peekToken with
  | some 't' => drop; word ['r', 'u', 'e']; return .flag true
  | some 'f' => drop; word ['a', 'l', 's', 'e']; return .flag false
  | _ => mismatch

/-- Any number, or the fault of what stands in its place. -/
def anyNumber : Reader Number := do
  match ← peekToken with
  | some c => if c = '-' ∨ c.isDigit then number else mismatch
  | none => mismatch

/-- A natural number of at most so many bits. -/
def natural (width : Nat) : Reader Value := do
  match ← anyNumber with
  | .natural n => if n < Nat.pow 2 width then return .natural n else fail .mismatched
  | _ => fail .mismatched

/-- The double of a number; a whole number of 64 bits is rounded to one. -/
def double : Reader Value := do
  match ← anyNumber with
  | .natural n => return .double (Double.ofNat n)
  | .negative n => return .double (Double.ofRatio true n 1)
  | .double x => return .double x

/-- Any text. -/
def text : Reader String := do
  match ← peekToken with
  | some '"' => string
  | _ => mismatch

/-- One of some texts; also as the only key of a record whose value is null. -/
def choice (names : List String) : Reader Value := do
  match ← peekToken with
  | none => fail .truncated
  | some '"' => named
  | some '\x7b' =>
      drop
      let v ← match ← peekToken with
        | some '"' => named
        | _ => mismatch
      colon
      match ← peekToken with
      | some 'n' => drop; word ['u', 'l', 'l']
      | _ => mismatch
      match ← peekToken with
      | some '\x7d' => drop; return v
      | none => fail .truncated
      | some _ => fail .malformed
  | some _ => fail .malformed
where
  /-- A text that is one of the names. -/
  named : Reader Value := do
    let s ← string
    if names.contains s then return .text s else fail .mismatched

/-- Whether another item of a list follows; if so, its first character is next.  The end of the
list stays in place. -/
def moreItems (first : Bool) : Reader Bool := do
  match ← peekToken with
  | none => fail .truncated
  | some ']' => return false
  | some c =>
      if first then return true
      if c ≠ ',' then fail .malformed
      drop
      match ← peekToken with
      | none => fail .truncated
      | some ']' => fail .malformed
      | some _ => return true

/-- The end of a list. -/
def endList : Reader Unit := do
  match ← peekToken with
  | none => fail .truncated
  | some ']' => drop
  | some _ => fail .malformed

/-- The items of a list, up to its end. -/
def items (item : Reader Value) : Nat → Bool → Reader (List Value)
  | 0, _ => fail .truncated
  | fuel + 1, first => do
      if ← moreItems first then
        let v ← item
        return v :: (← items item fuel false)
      else return []

/-- A list whose items are read by `item`.  Each takes at least one character. -/
def list (item : Reader Value) : Reader Value := do
  match ← peekToken with
  | some '[' =>
      drop
      let vs ← items item ((← get).length + 1) true
      endList
      return .list vs
  | _ => mismatch

/-- Whether another entry of a record follows; if so, the quote of its key is next.  The end of the
record stays in place. -/
def moreEntries (first : Bool) : Reader Bool := do
  match ← peekToken with
  | none => fail .truncated
  | some '\x7d' => return false
  | some c =>
      if first then
        if c = '"' then return true else fail .malformed
      if c ≠ ',' then fail .malformed
      drop
      match ← peekToken with
      | none => fail .truncated
      | some '"' => return true
      | some _ => fail .malformed

/-- How a field of a record is read. -/
structure FieldReader where
  name : String
  presence : Presence
  kind : Kind
  read : Reader Value

/-- The value of an optional field may be null. -/
def FieldReader.value (f : FieldReader) : Reader Value :=
  match f.presence with
  | .optional => do
      match ← peekToken with
      | some 'n' => drop; word ['u', 'l', 'l']; return .null
      | _ => f.read
  | _ => f.read

/-- The entries of a record, up to its end: the values of the known fields.  A known field that
comes again is a mismatch, noticed before its value is read. -/
def entries (fs : List FieldReader) :
    Nat → Bool → List (String × Value) → Reader (List (String × Value))
  | 0, _, _ => fail .truncated
  | fuel + 1, first, found => do
      if ← moreEntries first then
        let key ← string
        match fs.find? (·.name == key) with
        | none =>
            colon
            skip
            entries fs fuel false found
        | some f =>
            if found.any (·.1 == key) then fail .mismatched
            colon
            let v ← f.value
            entries fs fuel false ((key, v) :: found)
      else
        drop
        return found

/-- The fields of a record by position, as the items of a list. -/
def positional : List FieldReader → Bool → Reader (List (String × Value))
  | [], _ => return []
  | f :: fs, first => do
      if ← moreItems first then
        let v ← f.value
        return (f.name, v) :: (← positional fs false)
      else if f.presence = .required then fail .mismatched
      else positional fs true

/-- A record, as entries by name or as a list by position. -/
def record (fields : Fields) (fs : List FieldReader) : Reader Value := do
  let found ←
    match ← peekToken with
    | some '\x7b' =>
        drop
        entries fs ((← get).length + 1) true []
    | some '[' =>
        drop
        let found ← positional fs true
        endList
        pure found
    | _ => mismatch
  match fields.assemble? fun name => (found.find? (·.1 == name)).map (·.2) with
  | some es => return .record es
  | none => fail .mismatched

/-- Texts under any keys, up to the end of the record; the last of a repeated key stays. -/
def texts : Nat → Bool → Labels → Reader Labels
  | 0, _, _ => fail .truncated
  | fuel + 1, first, found => do
      if ← moreEntries first then
        let key ← string
        colon
        let s ← text
        texts fuel false (found.insert key s)
      else
        drop
        return found

/-- A set of texts under keys of any name. -/
def labels : Reader Value := do
  match ← peekToken with
  | some '\x7b' =>
      drop
      let ls ← texts ((← get).length + 1) true Labels.empty
      return .record (ls.entries.map fun e => (e.1, .text e.2))
  | _ => mismatch

mutual

/-- A value of a kind, off the front of a text. -/
def value : Kind → Reader Value
  | .flag => flag
  | .natural width => natural width
  | .double => double
  | .text => do return .text (← text)
  | .choice names => choice names
  | .list item => list (value item)
  | .record fields => record fields (fieldReaders fields)
  | .labels => labels

/-- The readers of the fields of a record. -/
def fieldReaders : Fields → List FieldReader
  | .nil => []
  | .cons name presence kind rest => ⟨name, presence, kind, value kind⟩ :: fieldReaders rest

end

/-- A whole text as a value of a kind; only blanks may follow the value. -/
def read (kind : Kind) (s : String) : Except Fault Value := do
  let (v, rest) ← value kind s.toList
  if (rest.dropWhile isBlank).isEmpty then return v else throw .malformed

end Meterboard.Json
