import Meterboard.Text

/-!
# Base64

Three bytes are written as four symbols of six bits; a shorter last group is filled with equals
signs.  Reading accepts only what writing produces: the padding must be there and the bits that a
last symbol does not need must be zero, so every byte string has one written form.

* `Base64.encode`, `Base64.decode` — the two directions.
* `Base64.Fault` — why a text is refused, with the place.
-/

namespace Meterboard.Base64

/-! ## Symbols -/

/-- The character of six bits. -/
def symbol (n : Nat) : Char :=
  if n < 26 then Char.ofNat ('A'.toNat + n)
  else if n < 52 then Char.ofNat ('a'.toNat + (n - 26))
  else if n < 62 then Char.ofNat ('0'.toNat + (n - 52))
  else if n = 62 then '+'
  else '/'

/-- The six bits of a character, given by its code. -/
def sixBits? (code : Nat) : Option Nat :=
  if 'A'.toNat ≤ code ∧ code ≤ 'Z'.toNat then some (code - 'A'.toNat)
  else if 'a'.toNat ≤ code ∧ code ≤ 'z'.toNat then some (code - 'a'.toNat + 26)
  else if '0'.toNat ≤ code ∧ code ≤ '9'.toNat then some (code - '0'.toNat + 52)
  else if code = '+'.toNat then some 62
  else if code = '/'.toNat then some 63
  else none

/-- The code of the padding character. -/
def pad : UInt8 := 61

/-! ## Writing -/

/-- Bytes as symbols, three at a time. -/
def encodeChars : List UInt8 → List Char
  | [] => []
  | [a] =>
      let n := 65536 * a.toNat
      [symbol (n / 262144), symbol (n / 4096 % 64), '=', '=']
  | [a, b] =>
      let n := 65536 * a.toNat + 256 * b.toNat
      [symbol (n / 262144), symbol (n / 4096 % 64), symbol (n / 64 % 64), '=']
  | a :: b :: c :: rest =>
      let n := 65536 * a.toNat + 256 * b.toNat + c.toNat
      symbol (n / 262144) :: symbol (n / 4096 % 64) :: symbol (n / 64 % 64) :: symbol (n % 64)
        :: encodeChars rest

/-- Bytes as text. -/
def encode (bs : List UInt8) : String := String.ofList (encodeChars bs)

/-! ## Reading -/

/-- Why a text is not base64. -/
inductive Fault where
  /-- A byte that is no symbol, or padding where none may stand. -/
  | invalidByte (offset : Nat) (byte : UInt8)
  /-- A single symbol is left over. -/
  | invalidLength (length : Nat)
  /-- The last symbol has bits that belong to no byte. -/
  | invalidLastSymbol (offset : Nat) (byte : UInt8)
  /-- The padding is missing or incomplete. -/
  | invalidPadding
deriving DecidableEq, Repr

/-- The wording of a fault. -/
def Fault.message : Fault → String
  | .invalidByte offset byte =>
      "Invalid symbol " ++ toString byte.toNat ++ ", offset " ++ toString offset ++ "."
  | .invalidLength length => "Invalid input length: " ++ toString length
  | .invalidLastSymbol offset byte =>
      "Invalid last symbol " ++ toString byte.toNat ++ ", offset " ++ toString offset ++ "."
  | .invalidPadding => "Invalid padding"

/-- The six bits of a symbol at an offset. -/
def bitsAt (offset : Nat) (byte : UInt8) : Except Fault Nat :=
  match sixBits? byte.toNat with
  | some n => .ok n
  | none => .error (.invalidByte offset byte)

/-- The symbols of the last group before its padding, with the number of padding characters.
Padding may stand only behind two symbols, and nothing may stand behind it. -/
def lastGroup (start : Nat) :
    Nat → List UInt8 → List Nat → Option Nat → Except Fault (List Nat × Nat)
  | index, [], symbols, padding? => .ok (symbols, (padding?.map (index - ·)).getD 0)
  | index, b :: rest, symbols, padding? =>
      if b = pad then
        if index < 2 then .error (.invalidByte (start + index) b)
        else lastGroup start (index + 1) rest symbols (some (padding?.getD index))
      else
        match padding? with
        | some first => .error (.invalidByte (start + first) pad)
        | none =>
            match bitsAt (start + index) b with
            | .ok n => lastGroup start (index + 1) rest (symbols ++ [n]) none
            | .error e => .error e

/-- The bytes of the last group, of at most four characters. -/
def decodeLast (start : Nat) (group : List UInt8) : Except Fault (List UInt8) := do
  let (symbols, padding) ← lastGroup start 0 group [] none
  let last (k : Nat) : Except Fault (List UInt8) :=
    throw (.invalidLastSymbol (start + k) (group.getD k 0))
  match symbols with
  | [a, b, c, d] =>
      let n := 262144 * a + 4096 * b + 64 * c + d
      return [(n / 65536).toUInt8, (n / 256).toUInt8, n.toUInt8]
  | [a, b, c] =>
      if padding ≠ 1 then throw .invalidPadding
      if c % 4 ≠ 0 then last 2
      else
        let n := 4096 * a + 64 * b + c
        return [(n / 1024).toUInt8, (n / 4).toUInt8]
  | [a, b] =>
      if padding ≠ 2 then throw .invalidPadding
      if b % 16 ≠ 0 then last 1
      else return [((64 * a + b) / 16).toUInt8]
  | symbols => throw (.invalidLength (start + symbols.length))

/-- The bytes of symbols from an offset on: full groups of four, of which the last may be padded. -/
def decodeGroups (start : Nat) : List UInt8 → Except Fault (List UInt8)
  | a :: b :: c :: d :: e :: rest => do
      let x ← bitsAt start a
      let y ← bitsAt (start + 1) b
      let z ← bitsAt (start + 2) c
      let w ← bitsAt (start + 3) d
      let n := 262144 * x + 4096 * y + 64 * z + w
      return (n / 65536).toUInt8 :: (n / 256).toUInt8 :: n.toUInt8
        :: (← decodeGroups (start + 4) (e :: rest))
  | [] => return []
  | group => decodeLast start group

/-- The bytes that a text stands for.  A last byte that makes the length odd by one and is no symbol
is told first, because it is most often a stray line end. -/
def decodeBytes (bs : List UInt8) : Except Fault (List UInt8) :=
  match bs.getLast? with
  | some b =>
      if bs.length % 4 = 1 ∧ b ≠ pad ∧ (sixBits? b.toNat).isNone then
        .error (.invalidByte (bs.length - 1) b)
      else decodeGroups 0 bs
  | none => .ok []

/-- The bytes that a text stands for. -/
def decode (s : String) : Except Fault (List UInt8) := decodeBytes s.toUTF8.data.toList

end Meterboard.Base64
