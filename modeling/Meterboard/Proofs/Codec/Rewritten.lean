import Meterboard.Proofs.Cbor.Rewriting
import Meterboard.Proofs.Codec

/-!
# Messages written in another way

Another program that writes a message need not write it as this library does.  Whatever it does with
the order of fields, with fields of its own, with what is absent or has its default, with the heads
of items and with white space around the text, the message is read as the same one.  A record that
has a field twice is the one thing that is never read.

* `Carries` — a text stands for bytes, white space around it aside.
* `decodeMessage_of_carries` — what a text is read as is decided by the item at its beginning.
* `ReadsRewritten` — both statements, as a property of a type of messages.
-/

namespace Meterboard

open Cbor (Item)
open Wire (Value)

/-- The text stands for the bytes, with any white space before and behind. -/
def Carries (s : String) (bs : List UInt8) : Prop :=
  ∃ before after : List Char, (∀ c ∈ before, Text.isBlank c = true) ∧
    (∀ c ∈ after, Text.isBlank c = true) ∧
      s = String.ofList before ++ Base64.encode bs ++ String.ofList after

lemma Carries.decode {s : String} {bs : List UInt8} (h : Carries s bs) :
    Base64.decode (Text.trim s) = .ok bs := by
  obtain ⟨before, after, hbefore, hafter, rfl⟩ := h
  have htrim : Text.trim (String.ofList before ++ Base64.encode bs ++ String.ofList after) =
      Base64.encode bs := by
    rw [Text.trim]
    simp only [String.toList_append, String.toList_ofList, List.append_assoc]
    rw [Text.trimChars_around hbefore hafter
      fun c hc => (Base64.plain_of_mem_encode hc).not_isBlank, String.ofList_toList]
  rw [htrim, Base64.decode_encode]

/-! ## One type of messages -/

section

variable {α : Type} [Message α] {item : Item} {bs rest : List UInt8} {s : String}

/-- A text is read by the item that it begins with; what is behind it is not looked at. -/
lemma decodeMessage_of_carries (hs : item.Spelled bs) (hcarries : Carries s (bs ++ rest)) :
    decodeMessage α s = ((Cbor.conform? (Message.kind α) item).bind Message.ofValue?).elim
      (.error (.decode "not a message of this type")) .ok := by
  have hread : Cbor.read? (Message.kind α) (bs ++ rest) =
      Cbor.conform? (Message.kind α) item := by
    rw [Cbor.read?, Cbor.item?_eq_some_iff.2 ⟨bs, rfl, hs⟩]
    rfl
  rw [decodeMessage, hcarries.decode]
  dsimp only
  rw [hread]
  cases (Cbor.conform? (Message.kind α) item).bind (Message.ofValue? : Value → Option α) <;> rfl

/-- **A message that is written in another way is read as the same message.** -/
theorem decodeMessage_of_alike [LawfulMessage α] {m : α}
    (halike : Item.Alike (Message.kind α) (.ofValue (Message.toValue m)) item)
    (hs : item.Spelled bs) (hcarries : Carries s (bs ++ rest)) : decodeMessage α s = .ok m := by
  have hread : Cbor.conform? (Message.kind α) item = some (Message.toValue m) := by
    rw [← Cbor.conform?_of_alike halike LawfulMessage.tidy]
    exact Cbor.conform?_ofValue (LawfulMessage.holds m) LawfulMessage.tidy
  rw [decodeMessage_of_carries hs hcarries, hread, Option.bind_some,
    LawfulMessage.ofValue?_toValue, Option.elim_some]

/-- **A message with a repeated field is read as none.** -/
theorem decodeMessage_of_repeats [LawfulMessage α] (hrepeats : item.Repeats (Message.kind α))
    (hs : item.Spelled bs) (hcarries : Carries s (bs ++ rest)) :
    ∃ reason, decodeMessage α s = .error (.decode reason) := by
  rw [decodeMessage_of_carries hs hcarries,
    Cbor.conform?_of_repeats hrepeats LawfulMessage.tidy]
  exact ⟨_, rfl⟩

end

/-! ## The messages of the store -/

/-- Messages of a type are read whatever way they are written in: any spelling of any rewriting of a
message, with any bytes behind it and any white space around it, is read as that message.  A field
that is repeated, in the message or in one of the records in it, makes the text be refused. -/
structure ReadsRewritten (α : Type) [Message α] : Prop where
  alike : ∀ (m : α) (item : Item) (bs rest : List UInt8) (s : String),
    Item.Alike (Message.kind α) (.ofValue (Message.toValue m)) item → item.Spelled bs →
      Carries s (bs ++ rest) → decodeMessage α s = .ok m
  repeated : ∀ (item : Item) (bs rest : List UInt8) (s : String),
    item.Repeats (Message.kind α) → item.Spelled bs → Carries s (bs ++ rest) →
      ∃ reason, decodeMessage α s = .error (.decode reason)

lemma readsRewritten (α : Type) [Message α] [LawfulMessage α] : ReadsRewritten α where
  alike _ _ _ _ _ := decodeMessage_of_alike
  repeated _ _ _ _ := decodeMessage_of_repeats

/-- A listing of one stream without samples. -/
def oneStream : ListResponse := ⟨true, none, [⟨"m", []⟩]⟩

/-- The listing with its fields in another order, an error message of null, and a stream that has a
unit and leaves its samples out. -/
def oneStreamItem : Item :=
  .record [("stream", .list [.record [("unit", .tagged 1 .chunked), ("variable", .text "m")]]),
    ("success", .flag true), ("errormessage", .null)]

/-- The maps and lists around the stream are of unstated length, that of the stream is stated in two
bytes, and the unit is a byte string in one chunk. -/
def oneStreamBytes : List UInt8 :=
  [0xbf, 0x66] ++ Cbor.utf8 "stream" ++ [0x9f, 0xb9, 0, 2, 0x64] ++ Cbor.utf8 "unit"
    ++ [0xc1, 0x5f, 0x41, 0, 0xff, 0x68] ++ Cbor.utf8 "variable" ++ [0x61, 0x6d, 0xff, 0x67]
    ++ Cbor.utf8 "success" ++ [0xf5, 0x6c] ++ Cbor.utf8 "errormessage" ++ [0xf6, 0xff]

lemma alike_oneStream :
    Item.Alike (Message.kind ListResponse) (.ofValue (Message.toValue oneStream))
      oneStreamItem := by
  have hvalue : Item.Rewrites (Message.kind MetricStream)
      (.record [("variable", .text "m"), ("value", .list [])])
      (.record [("variable", .text "m")]) :=
    @Item.Rewrites.defaulted _ [("variable", .text "m")] [] "value" (.list _)
      (.later _ _ _ (.first _)) (fun h => by cases h) (by simp)
  have hunit : Item.Rewrites (Message.kind MetricStream) (.record [("variable", .text "m")])
      (.record [("unit", .tagged 1 .chunked), ("variable", .text "m")]) :=
    @Item.Rewrites.unknown _ [] [("variable", .text "m")] "unit" _ (by decide)
  have hstream : ∀ {item item' : Item}, Item.Rewrites (Message.kind MetricStream) item item' →
      Item.Alike (Message.kind ListResponse)
        (.record [("success", .flag true), ("stream", .list [item])])
        (.record [("success", .flag true), ("stream", .list [item'])]) := fun h =>
    .rel _ _ (@Item.Rewrites.field _ [("success", .flag true)] [] "stream" _ _ _ _
      (.later _ _ _ (.later _ _ _ (.first _))) (@Item.Rewrites.item _ [] [] _ _ h))
  have hnull : ∀ item : Item, Item.Alike (Message.kind ListResponse)
      (.record [("success", .flag true), ("stream", item)])
      (.record [("success", .flag true), ("stream", item), ("errormessage", .null)]) := fun item =>
    .rel _ _ (@Item.Rewrites.nulled _ [("success", .flag true), ("stream", item)] []
      "errormessage" .text (.later _ _ _ (.first _)) (by simp))
  have hswap : ∀ item : Item, Item.Alike (Message.kind ListResponse)
      (.record [("success", .flag true), ("stream", item), ("errormessage", .null)])
      (.record [("stream", item), ("success", .flag true), ("errormessage", .null)]) := fun item =>
    .rel _ _ (.permuted (List.Perm.swap _ _ _))
  exact .trans _ _ _ (hstream hvalue) (.trans _ _ _ (hstream hunit)
    (.trans _ _ _ (hnull _) (hswap _)))

end Meterboard
