import Meterboard.Codec
import Meterboard.Proofs.Base64
import Meterboard.Proofs.Cbor.Conform
import Meterboard.Proofs.Message
import Meterboard.Proofs.Text.Blank

/-!
# Messages that come back

The store's codec is three layers deep: a message becomes a tree of values, the tree becomes bytes
and the bytes become text.  Each layer is inverted by its reader, so a message comes back as it was.
A text that was cut off on the way fails in one of the two lower layers: base64 gives back fewer
bytes or none, and fewer bytes are no item, because no item is the beginning of another.

* `decodeMessage_encode` — a message is read back.
* `decodeMessage_cut` — what was cut off is read as no message of any type.
* `ReadsBack`, `RefusesCut` — the same as properties of a type of messages.
-/

namespace Meterboard

open Wire (Value)

/-! ## One type of messages -/

section

variable {α : Type} [Message α] [LawfulMessage α]

/-- **A message is read back** from the text that it was written as. -/
theorem decodeMessage_encode {m : α} (hm : (Message.toValue m).Sized) :
    decodeMessage α (Codec.standard.encode m) = .ok m := by
  have htrim : Text.trim (Codec.standard.encode m) = Codec.standard.encode m :=
    Text.trim_eq_self fun c hc => (Base64.plain_of_mem_encode hc).not_isBlank
  have hbytes : Base64.decode (Codec.standard.encode m) = .ok (Cbor.write (Message.toValue m)) :=
    Base64.decode_encode _
  have hvalue : Cbor.read? (Message.kind α) (Cbor.write (Message.toValue m)) =
      some (Message.toValue m) := by
    have hread := Cbor.read?_write (LawfulMessage.holds m) LawfulMessage.tidy hm []
    rwa [List.append_nil] at hread
  rw [decodeMessage, htrim, hbytes]
  dsimp only
  rw [hvalue, Option.bind_some, LawfulMessage.ofValue?_toValue]

/-- **What was cut off is refused**, as base64 or as a message, for whatever type it is read. -/
theorem decodeMessage_cut (β : Type) [Message β] {m : α} (hm : (Message.toValue m).Sized)
    {s t : String} (hcut : Codec.standard.encode m = s ++ t) (ht : t ≠ "") :
    (∃ fault, decodeMessage β s = .error (.base64 fault)) ∨
      ∃ reason, decodeMessage β s = .error (.decode reason) := by
  have hcut : Base64.encode (Cbor.write (Message.toValue m)) = s ++ t := hcut
  have htrim : Text.trim s = s := by
    refine Text.trim_eq_self fun c hc => ?_
    have hmem : c ∈ (Base64.encode (Cbor.write (Message.toValue m))).toList := by
      rw [hcut, String.toList_append]
      exact List.mem_append_left _ hc
    exact (Base64.plain_of_mem_encode hmem).not_isBlank
  rcases Base64.decode_of_encode_eq_append hcut ht with ⟨fault, hfault⟩ | ⟨n, hn, hbytes⟩
  · exact .inl ⟨fault, by rw [decodeMessage, htrim, hfault]⟩
  · right
    have hback : (Cbor.write (Message.toValue m)).drop n ≠ [] := by
      simpa using hn
    have hnone : Cbor.read? (Message.kind β) ((Cbor.write (Message.toValue m)).take n) = none :=
      Cbor.read?_eq_none_of_append (LawfulMessage.holds m) LawfulMessage.tidy hm
        (List.take_append_drop n _).symm hback _
    rw [decodeMessage, htrim, hbytes]
    dsimp only
    rw [hnone]
    exact ⟨_, rfl⟩

end

/-! ## The messages of the store -/

/-- Messages of a type come back from the store's codec as they were, in the doubles bit for bit, so
that no two of them are sent as one text. -/
structure ReadsBack (α : Type) [Message α] : Prop where
  decode : ∀ m : α, (Message.toValue m).Sized →
    decodeMessage α (Codec.standard.encode m) = .ok m
  injective : ∀ m n : α, (Message.toValue m).Sized → (Message.toValue n).Sized →
    Codec.standard.encode m = Codec.standard.encode n → m = n

/-- The text of a message of a type is refused when its end is missing, as base64 or as a message:
it is read neither as that message nor as another one. -/
def RefusesCut (α : Type) [Message α] : Prop :=
  ∀ m : α, (Message.toValue m).Sized → ∀ s t : String,
    Codec.standard.encode m = s ++ t → t ≠ "" →
      (∃ fault, decodeMessage α s = .error (.base64 fault)) ∨
        ∃ reason, decodeMessage α s = .error (.decode reason)

lemma readsBack (α : Type) [Message α] [LawfulMessage α] : ReadsBack α where
  decode _ := decodeMessage_encode
  injective m n hm hn h := by
    have hread := decodeMessage_encode hm
    rw [h, decodeMessage_encode hn] at hread
    cases hread
    rfl

lemma refusesCut (α : Type) [Message α] [LawfulMessage α] : RefusesCut α :=
  fun _ hm _ _ hcut ht => decodeMessage_cut α hm hcut ht

/-- **Every message comes back from the wire.** -/
theorem messages_read_back :
    ReadsBack AddRequest ∧ ReadsBack AddResponse ∧ ReadsBack GetRequest ∧ ReadsBack GetResponse ∧
      ReadsBack ListRequest ∧ ReadsBack ListResponse :=
  ⟨readsBack _, readsBack _, readsBack _, readsBack _, readsBack _, readsBack _⟩

/-- A request to add one sample, a NaN with a payload beside a text outside the basic plane. -/
def addNaN (payload : UInt64) : AddRequest :=
  ⟨[⟨"m\x7bhost=a\x7d", [⟨0, some ⟨0x7FF8000000000000 + payload⟩, some "😀", none⟩]⟩]⟩

theorem messages_read_back_nan :
    decodeMessage AddRequest (Codec.standard.encode (addNaN 1)) = .ok (addNaN 1) ∧
      Codec.standard.encode (addNaN 1) ≠ Codec.standard.encode (addNaN 2) :=
  ⟨messages_read_back.1.decode (addNaN 1) (by decide), fun h =>
    absurd (messages_read_back.1.injective _ _ (by decide) (by decide) h) (by decide)⟩

/-- **A text that was cut off is never taken for a message.** -/
theorem cut_messages_refused :
    RefusesCut AddRequest ∧ RefusesCut AddResponse ∧ RefusesCut GetRequest ∧
      RefusesCut GetResponse ∧ RefusesCut ListRequest ∧ RefusesCut ListResponse :=
  ⟨refusesCut _, refusesCut _, refusesCut _, refusesCut _, refusesCut _, refusesCut _⟩

/-- The cut leaves whole groups of base64, and a record whose only value is missing. -/
theorem cut_messages_refused_flag :
    (∃ fault, decodeMessage AddResponse "oWdzdWNjZXNz" = .error (.base64 fault)) ∨
      ∃ reason, decodeMessage AddResponse "oWdzdWNjZXNz" = .error (.decode reason) :=
  cut_messages_refused.2.1 ⟨true, none⟩ (by decide) "oWdzdWNjZXNz" "9Q==" (by decide) (by decide)

end Meterboard
