import Meterboard.Store.Exchange

/-!
# Requests and answers on the wire

A request goes out over a connection of its own, and the store closes the connection behind its
answer.  So an answer is all that came until then.

* `HttpRequest.text` — a request as it is sent.
* `HttpAnswer.ofBytes` — the answer in what was received.
-/

namespace Meterboard

/-- The host as the store sees it; the number behind it is left out where it goes without saying. -/
def HttpRequest.hostText (r : HttpRequest) : String :=
  if r.url.tcpPort = Url.defaultTcpPort r.url.scheme then r.url.host
  else r.url.host ++ ":" ++ toString r.url.tcpPort

/-- A request as it is sent. -/
def HttpRequest.text (r : HttpRequest) : String :=
  String.intercalate "\r\n"
    ["POST " ++ r.url.target ++ " HTTP/1.1",
     "host: " ++ r.hostText,
     "content-type: " ++ r.contentType,
     "content-length: " ++ toString r.body.utf8ByteSize,
     "connection: close",
     "",
     r.body]

namespace HttpAnswer

/-- The lines before the first empty one, and what follows it. -/
def splitHead : List UInt8 → List UInt8 → Option (List UInt8 × List UInt8)
  | head, 13 :: 10 :: 13 :: 10 :: body => some (head.reverse, body)
  | head, b :: rest => splitHead (b :: head) rest
  | _, [] => none

/-- Bytes as characters of the same number. -/
def plainText (bytes : List UInt8) : List Char := bytes.map fun b => Char.ofNat b.toNat

/-- The value of a header line of that name. -/
def headerValue? (name : String) (line : List Char) : Option String :=
  let key := line.takeWhile (· ≠ ':')
  if key.map Char.toLower = name.toList then
    some (Text.trim (String.ofList (line.drop (key.length + 1))))
  else none

/-- The value of the first header of that name. -/
def header? (name : String) (lines : List (List Char)) : Option String :=
  lines.findSome? (headerValue? name)

/-- The pieces of a body that is sent in pieces, each behind its size; the bound is the number of
bytes. -/
def joined : Nat → List UInt8 → List UInt8
  | 0, _ => []
  | bound + 1, bytes =>
      let line := (bytes.takeWhile (· ≠ 10))
      let rest := bytes.drop (line.length + 1)
      let digits := (plainText line).takeWhile fun c => (Text.hexValue? c).isSome
      match Text.hexNatural? digits with
      | none | some 0 => []
      | some size => rest.take size ++ joined bound (rest.drop (size + 2))

/-- The text of a body; in one that is not UTF-8 no byte beyond ASCII can be read. -/
def bodyText (bytes : List UInt8) : String :=
  match String.fromUTF8? ⟨bytes.toArray⟩ with
  | some s => s
  | none => String.ofList (bytes.map fun b => if b < 128 then Char.ofNat b.toNat else '\uFFFD')

/-- The body, as the headers say it is sent. -/
def body (headers : List (List Char)) (bytes : List UInt8) : List UInt8 :=
  if header? "transfer-encoding" headers = some "chunked" then joined bytes.length bytes
  else
    match (header? "content-length" headers).bind fun s => Text.natural? s.toList with
    | some size => bytes.take size
    | none => bytes

/-- The status in the first line of an answer. -/
def status? (line : List Char) : Option Nat :=
  match line.splitOn ' ' with
  | _ :: code :: _ => Text.natural? code
  | _ => none

/-- The answer in what was received; something that is none counts as no connection. -/
def ofBytes (bytes : List UInt8) : HttpAnswer :=
  match splitHead [] bytes with
  | none => .noConnection
  | some (head, rest) =>
      match ((plainText head).filter (· ≠ '\r')).splitOn '\n' with
      | [] => .noConnection
      | first :: headers =>
          match status? first with
          | some status => .response status (bodyText (body headers rest))
          | none => .noConnection

end HttpAnswer

end Meterboard
