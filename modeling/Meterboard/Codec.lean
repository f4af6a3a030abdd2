import Meterboard.Base64
import Meterboard.Cbor.Reader
import Meterboard.Json.Reader
import Meterboard.Json.Writer
import Meterboard.Labels
import Meterboard.Identifier
import Meterboard.Message
import Meterboard.Text

/-!
# Messages as text

The body of a request is the message in CBOR, written in base64 so that it is one line of text.

* `Codec` — a way to write messages as text and read them back; `Codec.standard` is the store's own.
* `CodecError` — why a message could not be written or read.
* `Json.ofMessage`, `Json.message` — the JSON form of a message.
-/

namespace Meterboard

/-- Why a message could not be written as text or read from it. -/
inductive CodecError where
  | encode (reason : String)
  | base64 (fault : Base64.Fault)
  | decode (reason : String)
deriving DecidableEq, Repr

/-- The wording of a codec error. -/
def CodecError.message : CodecError → String
  | .encode reason => "Failed to encode message: " ++ reason
  | .base64 fault => "Invalid base64 body: " ++ fault.message
  | .decode reason => "Failed to decode message: " ++ reason

/-- The text of a message: its CBOR in base64. -/
def encodeMessage {α : Type} [Message α] (m : α) : String :=
  Base64.encode (Cbor.write (Message.toValue m))

/-- The message of a text, blanks around it aside.  Bytes behind the message are not looked at.
Where the bytes are no message, the reason is one text for all of them: a reader says more, in words
of its own, and nothing here depends on them. -/
def decodeMessage (α : Type) [Message α] (s : String) : Except CodecError α :=
  match Base64.decode (Text.trim s) with
  | .error fault => .error (.base64 fault)
  | .ok bs =>
      match (Cbor.read? (Message.kind α) bs).bind Message.ofValue? with
      | some m => .ok m
      | none => .error (.decode "not a message of this type")

/-- A way to write messages as text.  A codec may only lay out the same text in another way, which
what reads it must undo or ignore; so reading is always `decodeMessage` and no part of a codec.
Writing cannot fail: every message has a form in CBOR, and the form is written to memory.  That is
why no call ends in `CodecError.encode`. -/
structure Codec where
  contentType : String
  /-- The text to send for the text of a message. -/
  layout : String → String

namespace Codec

/-- The text of a message as it is sent. -/
def encode {α : Type} [Message α] (c : Codec) (m : α) : String := c.layout (encodeMessage m)

/-- The codec that stores use: one line. -/
def standard : Codec := ⟨"text/base64", id⟩

/-- Cut into pieces of a length; the last may be shorter. -/
def chunked (n : Nat) : Nat → List Char → List (List Char)
  | 0, _ => []
  | _, [] => []
  | fuel + 1, s => s.take n :: chunked n fuel (s.drop n)

/-- A codec that breaks lines after so many characters and ends in a line end. -/
def wrapped (n : Nat) : Codec where
  contentType := "text/wrapped"
  layout s :=
    let pieces := chunked (max n 1) s.length s.toList
    String.ofList (['\n'].intercalate pieces ++ ['\r', '\n'])

end Codec

/-! ## JSON -/

instance : Message Identifier where
  kind := .record (.cons "name" .required .text (.cons "labels" .required .labels .nil))
  toValue i := .record
    [("name", .text i.name),
     ("labels", .record (i.labels.entries.map fun e => (e.1, .text e.2)))]
  ofValue? v := do
    let name ← v.required? Wire.Value.asText? "name"
    let entries ← v.required? (fun w =>
      match w with
      | .record es => es.mapM fun e => e.2.asText?.map fun s => (e.1, s)
      | _ => none) "labels"
    return ⟨name, Labels.ofList entries⟩

namespace Json

/-- The JSON text of a message. -/
def ofMessage {α : Type} [Message α] (m : α) : String := compact (Message.toValue m)

/-- The message of a JSON text. -/
def message (α : Type) [Message α] (s : String) : Except Fault α := do
  let v ← read (Message.kind α) s
  match Message.ofValue? v with
  | some m => return m
  | none => throw .mismatched

end Json

end Meterboard
