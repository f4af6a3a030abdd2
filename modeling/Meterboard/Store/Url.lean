import Meterboard.Text

/-!
# Addresses of stores

A store is reached under an `http` or `https` address.  Addresses are read leniently, as browsers
read them: blanks around them, line ends inside them and backslashes for slashes do no harm.

* `Url.parse?` — an address, if it can be used.
* `Url.text` — an address in its normal form.
-/

namespace Meterboard

/-- An address that a request can be sent to. -/
structure Url where
  scheme : String
  host : String
  /-- The number behind the host. -/
  tcpPort : Nat
  /-- Path and query, percent-encoded. -/
  target : String
deriving DecidableEq, Repr

namespace Url

/-- The number behind the host when an address of the scheme names none. -/
def defaultTcpPort (scheme : String) : Nat := if scheme = "https" then 443 else 80

/-! ## Encoding -/

/-- Characters that stand in a path as they are. -/
def isPlain (c : Char) : Bool :=
  0x21 ≤ c.toNat && c.toNat ≤ 0x7E && !"\"#<>?^\x60\x7b\x7d".toList.contains c

/-- Characters that stand in a query as they are. -/
def isPlainInQuery (c : Char) : Bool :=
  0x21 ≤ c.toNat && c.toNat ≤ 0x7E && !"\"#'<>".toList.contains c

/-- One byte as a percent sign and two digits. -/
def percent (b : UInt8) : List Char :=
  '%' :: (List.leftpad 2 '0' (Text.hex b.toNat)).map Char.toUpper

/-- Every character that is not plain by its UTF-8 bytes. -/
def encode (plain : Char → Bool) (s : List Char) : List Char :=
  s.flatMap fun c =>
    if plain c then [c] else (String.singleton c).toUTF8.data.toList.flatMap percent

/-! ## Hosts -/

/-- Characters that no host name holds. -/
def isForbidden (c : Char) : Bool :=
  c.toNat ≤ 0x20 || c.toNat = 0x7F || "#%/:<>?@[\\]^|".toList.contains c

/-- A part of a numeric address: decimal, octal after a zero, or hexadecimal after `0x`. -/
def addressPart? (s : List Char) : Option Nat :=
  match s with
  | [] => none
  | '0' :: x :: rest =>
      if x = 'x' ∨ x = 'X' then (if rest.isEmpty then some 0 else Text.hexNatural? rest)
      else
        (x :: rest).foldl (fun n c => do
          let n ← n
          if '0' ≤ c ∧ c ≤ '7' then some (8 * n + Text.digitValue c) else none) (some 0)
  | s => Text.natural? s

/-- The pieces of a text between dots. -/
def labels (s : List Char) : List (List Char) := s.splitOn '.'

/-- The labels of a name, without the empty one behind a last dot. -/
def significantLabels (s : List Char) : List (List Char) :=
  let ls := labels s
  if 1 < ls.length ∧ ls.getLast? = some [] then ls.dropLast else ls

/-- A name whose last label is a number has to be a numeric address. -/
def endsInNumber (s : List Char) : Bool :=
  match (significantLabels s).getLast? with
  | some l => (Text.natural? l).isSome || ((addressPart? l).isSome && 2 ≤ l.length)
  | none => false

/-- The four bytes of a numeric address: of at most four parts the last one fills the rest. -/
def numericAddress? (s : List Char) : Option Nat := do
  let parts ← (significantLabels s).mapM addressPart?
  let last ← parts.getLast?
  let front := parts.dropLast
  if 3 < front.length then none
  if front.any (255 < ·) then none
  if Nat.pow 256 (4 - front.length) ≤ last then none
  let high := (front.zip [3, 2, 1, 0]).foldl (fun n p => n + p.1 * Nat.pow 256 p.2) 0
  return high + last

/-- A host in its normal form. -/
def host? (s : List Char) : Option (List Char) :=
  match s with
  | '[' :: rest =>
      let inner := rest.dropLast
      if rest.getLast? = some ']' ∧ 2 ≤ (inner.filter (· = ':')).length
          ∧ inner.all (fun c => (Text.hexValue? c).isSome || c = ':' || c = '.') then
        some ('[' :: inner.map Char.toLower ++ [']'])
      else none
  | s =>
      if s.isEmpty ∨ s.any isForbidden then none
      else if endsInNumber s then do
        let n ← numericAddress? s
        let byte (k : Nat) := Text.decimal (n / Nat.pow 256 k % 256)
        return byte 3 ++ '.' :: byte 2 ++ '.' :: byte 1 ++ '.' :: byte 0
      else some (s.map Char.toLower)

/-! ## Reading -/

/-- The number behind the host: nothing, or digits up to 65535. -/
def tcpPort? (scheme : String) (s : List Char) : Option Nat :=
  if s.isEmpty then some (defaultTcpPort scheme)
  else do
    let n ← Text.natural? s
    if n ≤ 65535 then some n else none

/-- The part before the colon that ends a host, and the rest; the colons of a numeric address in
brackets do not count. -/
def splitHost (s : List Char) : List Char × List Char :=
  match s with
  | '[' :: _ =>
      (s.takeWhile (· ≠ ']') ++ (s.dropWhile (· ≠ ']')).take 1,
        ((s.dropWhile (· ≠ ']')).drop 1))
  | s => (s.takeWhile (· ≠ ':'), s.dropWhile (· ≠ ':'))

/-- A character that ends the part of the host. -/
def endsAuthority (c : Char) : Bool := c = '/' || c = '\\' || c = '?' || c = '#'

/-- The segments of a path with `.` and `..` carried out. -/
def resolve (segments : List (List Char)) : List (List Char) :=
  let n := segments.length
  ((segments.zip (List.range n)).foldl (fun (done : List (List Char)) (p : List Char × Nat) =>
    let last := p.2 + 1 = n
    if p.1 = ['.', '.'] then (if last then done.dropLast ++ [[]] else done.dropLast)
    else if p.1 = ['.'] then (if last then done ++ [[]] else done)
    else done ++ [p.1]) [])

/-- Path and query, percent-encoded; an empty path is a slash and a fragment is left out. -/
def targetOf (s : List Char) : List Char :=
  let s := s.takeWhile (· ≠ '#')
  let path := (s.takeWhile (· ≠ '?')).map fun c => if c = '\\' then '/' else c
  let query := s.dropWhile (· ≠ '?')
  let segments := resolve ((path.drop 1).splitOn '/')
  ['/'] ++ ['/'].intercalate (segments.map (encode isPlain))
    ++ (match query with
      | [] => []
      | c :: q => c :: encode isPlainInQuery q)

/-- Blanks and controls around an address are not part of it, nor are line ends and tabs in it. -/
def cleaned (s : List Char) : List Char :=
  let outer (c : Char) : Bool := c.toNat ≤ 0x20
  ((s.dropWhile outer).reverse.dropWhile outer).reverse.filter fun c =>
    c ≠ '\t' && c ≠ '\n' && c ≠ '\r'

/-- The scheme of an address, in lower case, and what follows its colon. -/
def scheme? (s : List Char) : Option (String × List Char) :=
  let name := s.takeWhile fun c => c.isAlphanum || c = '+' || c = '-' || c = '.'
  match name, s.drop name.length with
  | c :: _, ':' :: rest =>
      if c.isAlpha then some (String.ofList (name.map Char.toLower), rest) else none
  | _, _ => none

/-- Read an address that a request can be sent to. -/
def parse? (s : String) : Option Url := do
  let (scheme, rest) ← scheme? (cleaned s.toList)
  if scheme ≠ "http" ∧ scheme ≠ "https" then none
  let rest := rest.dropWhile fun c => c = '/' || c = '\\'
  let authority := rest.takeWhile (!endsAuthority ·)
  let place := (authority.reverse.takeWhile (· ≠ '@')).reverse
  let (name, behind) := splitHost place
  if !(behind.isEmpty || behind.head? = some ':') then none
  let host ← host? name
  let number ← tcpPort? scheme (behind.drop 1)
  return ⟨scheme, String.ofList host, number,
    String.ofList (targetOf (rest.dropWhile (!endsAuthority ·)))⟩

/-! ## Writing -/

/-- The address in its normal form, without the number that its scheme implies. -/
def text (u : Url) : String :=
  u.scheme ++ "://" ++ u.host
    ++ (if u.tcpPort = defaultTcpPort u.scheme then "" else ":" ++ toString u.tcpPort) ++ u.target

end Url

end Meterboard
