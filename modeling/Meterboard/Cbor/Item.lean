import Meterboard.Wire.Value

/-!
# CBOR items

CBOR is the binary format of messages.  An item starts with a head of one to nine bytes that gives
its major type and a number; lists, records and texts may also be of unstated length and then run up
to a break byte.

* `Cbor.Item` — what an encoded item says, its spelling aside.
* `Cbor.head` — the shortest head for a major type and a number.
* `Cbor.write` — the bytes of a value.
* `Cbor.item?` — read an item off the front of some bytes.
-/

namespace Meterboard.Cbor

open Wire (Value)

/-- An encoded item.  Two spellings of one value, long and short heads or stated and unstated
lengths, are the same item, except that a text in chunks is told from a text in one piece. -/
inductive Item where
  | unsigned (n : Nat)
  | negative (n : Nat)
  | bytes (bs : List UInt8)
  | text (s : String)
  /-- A text or byte string in chunks. -/
  | chunked
  | list (items : List Item)
  | map (entries : List (Item × Item))
  | tagged (tag : Nat) (item : Item)
  | flag (b : Bool)
  | null
  | double (x : Double)
  /-- A simple value or a float of half precision, which no message holds. -/
  | other

/-! ## Writing -/

/-- A number in so many bytes, most significant first. -/
def bigEndian : Nat → Nat → List UInt8
  | 0, _ => []
  | width + 1, n => (n / Nat.pow 256 width).toUInt8 :: bigEndian width n

/-- The shortest head of a major type with a number below two to the sixty-fourth. -/
def head (major n : Nat) : List UInt8 :=
  let first (info : Nat) : UInt8 := (32 * major + info).toUInt8
  if n < 24 then [first n]
  else if n < UInt8.size then first 24 :: bigEndian 1 n
  else if n < UInt16.size then first 25 :: bigEndian 2 n
  else if n < UInt32.size then first 26 :: bigEndian 4 n
  else first 27 :: bigEndian 8 n

/-- The bytes of a text. -/
def utf8 (s : String) : List UInt8 := s.toUTF8.data.toList

/-- A text with its head. -/
def writeText (s : String) : List UInt8 := head 3 (utf8 s).length ++ utf8 s

mutual

/-- The bytes of a value: shortest heads, stated lengths, doubles in full. -/
def write : Value → List UInt8
  | .null => [0xf6]
  | .flag false => [0xf4]
  | .flag true => [0xf5]
  | .natural n => head 0 n
  | .double x => 0xfb :: bigEndian 8 x.bits.toNat
  | .text s => writeText s
  | .list items => head 4 items.length ++ writeItems items
  | .record entries => head 5 entries.length ++ writeEntries entries

/-- The bytes of items, one after the other. -/
def writeItems : List Value → List UInt8
  | [] => []
  | v :: rest => write v ++ writeItems rest

/-- The bytes of entries, each a key and a value. -/
def writeEntries : List (String × Value) → List UInt8
  | [] => []
  | (k, v) :: rest => writeText k ++ write v ++ writeEntries rest

end

/-! ## Reading -/

/-- The number after the first byte of a head, or none for an unstated length. -/
structure Head where
  major : Nat
  info : Nat
  number? : Option Nat

/-- Some bytes as a number, most significant first. -/
def ofBigEndian (bs : List UInt8) : Nat := bs.foldl (fun n b => 256 * n + b.toNat) 0

/-- The first so many bytes and the rest, if there are as many. -/
def take? (n : Nat) (bs : List UInt8) : Option (List UInt8 × List UInt8) :=
  let front := bs.take n
  if front.length = n then some (front, bs.drop n) else none

/-- Read a head.  Three values of its low bits are not assigned. -/
def head? : List UInt8 → Option (Head × List UInt8)
  | [] => none
  | b :: rest =>
      let major := b.toNat / 32
      let info := b.toNat % 32
      if info < 24 then some (⟨major, info, some info⟩, rest)
      else if info < 28 then do
        let (front, rest) ← take? (Nat.pow 2 (info - 24)) rest
        return (⟨major, info, some (ofBigEndian front)⟩, rest)
      else if info = 31 then some (⟨major, info, none⟩, rest)
      else none

/-- Bytes as a text, if they are UTF-8. -/
def text? (bs : List UInt8) : Option String := String.fromUTF8? ⟨bs.toArray⟩

/-- The fraction of a NaN with the bit set that keeps it from being a signalling one. -/
def quiet (fraction : Nat) : Nat :=
  if fraction < Nat.pow 2 22 then Nat.pow 2 22 + fraction else fraction

/-- The double of the same value as a number of single precision.  A signalling NaN becomes quiet,
as where the hardware converts it. -/
def widen (n : Nat) : Double :=
  let negative : Bool := Nat.pow 2 31 ≤ n
  let exponent := n / Nat.pow 2 23 % Nat.pow 2 8
  let fraction := n % Nat.pow 2 23
  if exponent = 255 then
    let payload := if fraction = 0 then 0 else quiet fraction
    Double.ofMagnitude negative (Double.infiniteMagnitude + payload * Nat.pow 2 29)
  else
    let units :=
      if exponent = 0 then fraction else (Nat.pow 2 23 + fraction) * Nat.pow 2 (exponent - 1)
    Double.ofRatio negative units (Nat.pow 2 149)

/-- The chunks of a string, up to the break: strings of the same type and of stated length. -/
def chunks? (major : Nat) : Nat → List UInt8 → Option (List UInt8)
  | 0, _ => none
  | fuel + 1, bs =>
      match bs with
      | 0xff :: rest => some rest
      | bs => do
          let (h, rest) ← head? bs
          let n ← h.number?
          if h.major ≠ major then none
          let (front, rest) ← take? n rest
          if major = 3 ∧ (text? front).isNone then none
          chunks? major fuel rest

/-- What a head of the last major type says: a simple value or a float. -/
def simple? (h : Head) : Option Item := do
  let n ← h.number?
  return match h.info with
    | 20 => .flag false
    | 21 => .flag true
    | 22 => .null
    | 26 => .double (widen n)
    | 27 => .double ⟨n.toUInt64⟩
    | _ => .other

mutual

/-- Read an item off the front of some bytes.  The fuel bounds the items inside it; each takes at
least one byte. -/
def readItem : Nat → List UInt8 → Option (Item × List UInt8)
  | 0, _ => none
  | fuel + 1, bs => do
      let (h, rest) ← head? bs
      match h.major with
      | 0 => return (.unsigned (← h.number?), rest)
      | 1 => return (.negative (← h.number?), rest)
      | 2 =>
          match h.number? with
          | none => return (.chunked, ← chunks? 2 fuel rest)
          | some n =>
              let (front, rest) ← take? n rest
              return (.bytes front, rest)
      | 3 =>
          match h.number? with
          | none => return (.chunked, ← chunks? 3 fuel rest)
          | some n =>
              let (front, rest) ← take? n rest
              return (.text (← text? front), rest)
      | 4 =>
          let (items, rest) ← readItems fuel h.number? rest
          return (.list items, rest)
      | 5 =>
          let (entries, rest) ← readEntries fuel h.number? rest
          return (.map entries, rest)
      | 6 =>
          let tag ← h.number?
          let (item, rest) ← readItem fuel rest
          return (.tagged tag item, rest)
      | _ => return (← simple? h, rest)

/-- Read so many items, or those up to the break. -/
def readItems : Nat → Option Nat → List UInt8 → Option (List Item × List UInt8)
  | _, some 0, bs => some ([], bs)
  | 0, _, _ => none
  | fuel + 1, count, bs =>
      match count, bs with
      | none, 0xff :: rest => some ([], rest)
      | count, bs => do
          let (item, rest) ← readItem fuel bs
          let (items, rest) ← readItems fuel (count.map (· - 1)) rest
          return (item :: items, rest)

/-- Read so many entries, or those up to the break. -/
def readEntries : Nat → Option Nat → List UInt8 → Option (List (Item × Item) × List UInt8)
  | _, some 0, bs => some ([], bs)
  | 0, _, _ => none
  | fuel + 1, count, bs =>
      match count, bs with
      | none, 0xff :: rest => some ([], rest)
      | count, bs => do
          let (key, rest) ← readItem fuel bs
          let (value, rest) ← readItem fuel rest
          let (entries, rest) ← readEntries fuel (count.map (· - 1)) rest
          return ((key, value) :: entries, rest)

end

/-- Read an item off the front of some bytes. -/
def item? (bs : List UInt8) : Option (Item × List UInt8) := readItem (2 * bs.length + 2) bs

end Meterboard.Cbor
