import Meterboard.Codec
import Meterboard.Proofs.Json.Value
import Meterboard.Proofs.Message

/-!
# Messages in JSON, read back

A message is written in JSON through its value, like in CBOR, and a value without doubles is read
back by its kind.  Most kinds have no place for a double.  Samples have one; a message that holds
samples comes back if that place is empty in all of them.  A double need not come back: one that is
not finite is written as null, and the digits of the others are not always read as the nearest one.

* `Kind.withoutDouble`, `Kind.Holds.notDouble` — kinds whose values hold no doubles.
* `Json.message_ofMessage` — a message without doubles is read back.
* `Json.messages_restored` — the same for each type of messages, and for identifiers.
-/

namespace Meterboard

open Wire

/-! ## Identifiers -/

instance : LawfulMessage Identifier where
  tidy := by decide
  holds i := .record (.written (.text _) (.written (.labels _) .nil))
  ofValue?_toValue i := by
    have hentries : (i.labels.entries.map fun e => (e.1, Value.text e.2)).mapM
        (fun e => e.2.asText?.map fun s => (e.1, s)) = some (i.labels.entries.map id) :=
      mapM_map_eq_some fun _ _ => rfl
    rw [List.map_id] at hentries
    have hlabels : valueOf? [("name", Value.text i.name),
        ("labels", .record (i.labels.entries.map fun e => (e.1, .text e.2)))] "labels"
        = some (.record (i.labels.entries.map fun e => (e.1, .text e.2))) := rfl
    delta instMessageIdentifier
    simp [hlabels, hentries, Labels.ofList_entries]

namespace Wire

/-! ## Values without doubles -/

section

variable {p : Value → Prop}

lemma Value.EveryEntry.append {xs ys : List (String × Value)} (hxs : EveryEntry p xs)
    (hys : EveryEntry p ys) : EveryEntry p (xs ++ ys) := by
  rw [everyEntry_iff] at hxs hys ⊢
  exact List.forall_mem_append.2 ⟨hxs, hys⟩

lemma Value.EveryEntry.whenSome {α : Type} {name : String} {f : α → Value}
    (hf : ∀ a, (f a).Every p) {o : Option α} : EveryEntry p (Value.whenSome name f o) := by
  cases o with
  | none => trivial
  | some a => exact ⟨hf a, trivial⟩

end

mutual

/-- No value of the kind holds a double. -/
def Kind.withoutDouble : Kind → Bool
  | .double => false
  | .list item => item.withoutDouble
  | .record fields => fields.withoutDouble
  | _ => true

/-- See `Kind.withoutDouble`. -/
def Fields.withoutDouble : Fields → Bool
  | .nil => true
  | .cons _ _ kind rest => kind.withoutDouble && rest.withoutDouble

end

mutual

/-- The values of a kind without doubles hold none. -/
theorem Kind.Holds.notDouble : ∀ {kind : Kind} {v : Value}, kind.Holds v → kind.withoutDouble →
    v.Every Value.NotDouble
  | .flag, _, .flag _, _ | .natural _, _, .natural _, _ | .text, _, .text _, _
  | .choice _, _, .choice _, _ => trivial
  | .list _, _, .list hitems, h =>
      ⟨trivial, Value.everyItem_iff.2 fun v hv => (hitems v hv).notDouble h⟩
  | .record _, _, .record hentries, h => ⟨trivial, hentries.notDouble h⟩
  | .labels, _, .labels ls, _ => by
      refine ⟨trivial, Value.everyEntry_iff.2 fun e he => ?_⟩
      obtain ⟨label, _, rfl⟩ := List.mem_map.1 he
      trivial

lemma Fields.Holds.notDouble : ∀ {fields : Fields} {entries : List (String × Value)},
    fields.Holds entries → fields.withoutDouble → Value.EveryEntry Value.NotDouble entries
  | .nil, _, .nil, _ => trivial
  | .cons _ _ _ _, _, .written hv hrest, h =>
      ⟨hv.notDouble (Bool.and_eq_true_iff.1 h).1, hrest.notDouble (Bool.and_eq_true_iff.1 h).2⟩
  | .cons _ _ _ _, _, .leftOut hrest, h => hrest.notDouble (Bool.and_eq_true_iff.1 h).2

end

end Wire

/-! ## Samples without doubles -/

/-- No sample of the streams holds a double. -/
def WithoutDoubles (streams : List MetricStream) : Prop :=
  ∀ stream ∈ streams, ∀ sample ∈ stream.samples, sample.double? = none

instance (streams : List MetricStream) : Decidable (WithoutDoubles streams) :=
  inferInstanceAs (Decidable (∀ stream ∈ streams, ∀ sample ∈ stream.samples,
    sample.double? = none))

lemma notDouble_list {α : Type} [Message α] {ms : List α}
    (h : ∀ m ∈ ms, (Message.toValue m).Every Value.NotDouble) :
    (Value.list (ms.map Message.toValue)).Every Value.NotDouble := by
  refine ⟨trivial, Value.everyItem_iff.2 fun v hv => ?_⟩
  obtain ⟨m, hm, rfl⟩ := List.mem_map.1 hv
  exact h m hm

lemma notDouble_sample {s : Sample} (h : s.double? = none) :
    (Message.toValue s).Every Value.NotDouble := by
  obtain ⟨timestamp, double?, text?, until?⟩ := s
  obtain rfl : double? = none := h
  refine ⟨trivial, .append (.append (.append ?_ trivial) ?_) ?_⟩
  · exact ⟨trivial, trivial⟩
  · refine .whenSome ?_
    exact fun _ => trivial
  · refine .whenSome ?_
    exact fun _ => trivial

lemma notDouble_streams {streams : List MetricStream} (h : WithoutDoubles streams) :
    (Value.list (streams.map Message.toValue)).Every Value.NotDouble := by
  refine notDouble_list fun stream hstream => ?_
  have hsamples := notDouble_list fun sample hsample =>
    notDouble_sample (h stream hstream sample hsample)
  exact ⟨trivial, trivial, hsamples, trivial⟩

lemma notDouble_streamsValue (accepted : Bool) (reason? : Option String)
    {streams : List MetricStream} (h : WithoutDoubles streams) :
    (streamsValue accepted reason? streams).Every Value.NotDouble := by
  refine ⟨trivial, .append (.append ?_ ?_) ?_⟩
  · exact ⟨trivial, trivial⟩
  · refine .whenSome ?_
    exact fun _ => trivial
  · exact ⟨notDouble_streams h, trivial⟩

namespace Json

/-! ## Messages -/

section

variable {α : Type} [Message α] [LawfulMessage α]

/-- **A message without doubles is read back** from its JSON text. -/
theorem message_ofMessage {m : α} (hm : (Message.toValue m).Every Value.NotDouble) :
    message α (ofMessage m) = .ok m := by
  have hread : read (Message.kind α) (ofMessage m) = .ok (Message.toValue m) := by
    have hvalue := (restores_of_holds (LawfulMessage.holds m) LawfulMessage.tidy hm).takes [] .nil
    rw [List.append_nil] at hvalue
    rw [read, ofMessage, compact, String.toList_ofList, hvalue]
    rfl
  rw [message, hread]
  dsimp only [bind, Except.bind]
  rw [LawfulMessage.ofValue?_toValue]
  rfl

/-- A message whose kind has no doubles is read back. -/
lemma message_ofMessage_of_kind (h : (Message.kind α).withoutDouble) (m : α) :
    message α (ofMessage m) = .ok m :=
  message_ofMessage ((LawfulMessage.holds m).notDouble h)

end

/-- **Messages are read back from JSON.**  Any message is, as long as its samples, if it holds any,
hold no doubles; and so is any identifier. -/
theorem messages_restored :
    (∀ m : GetRequest, message GetRequest (ofMessage m) = .ok m) ∧
    (∀ m : ListRequest, message ListRequest (ofMessage m) = .ok m) ∧
    (∀ m : AddResponse, message AddResponse (ofMessage m) = .ok m) ∧
    (∀ m : AddRequest, WithoutDoubles m.streams → message AddRequest (ofMessage m) = .ok m) ∧
    (∀ m : GetResponse, WithoutDoubles m.streams → message GetResponse (ofMessage m) = .ok m) ∧
    (∀ m : ListResponse, WithoutDoubles m.streams → message ListResponse (ofMessage m) = .ok m) ∧
    ∀ i : Identifier, message Identifier (ofMessage i) = .ok i := by
  refine ⟨?_, ?_, ?_, fun m hm => ?_, fun m hm => ?_, fun m hm => ?_, ?_⟩
  · exact message_ofMessage_of_kind (by decide)
  · exact message_ofMessage_of_kind (by decide)
  · exact message_ofMessage_of_kind (by decide)
  · exact message_ofMessage ⟨trivial, notDouble_streams hm, trivial⟩
  · exact message_ofMessage (notDouble_streamsValue m.accepted m.reason? hm)
  · exact message_ofMessage (notDouble_streamsValue m.accepted m.reason? hm)
  · exact message_ofMessage_of_kind (by decide)

/-- A sample whose text has to be escaped in several ways. -/
def noted : MetricStream :=
  ⟨"m\x7bhost=\"a\\b\"\x7d", [⟨18446744073709551615, none, some "\x07\n\x7f😀/", none⟩]⟩

/-- Quotes, backslashes and controls, a character outside the basic plane, the largest number, and a
set of labels. -/
theorem messages_restored_escaped :
    ofMessage (⟨[noted]⟩ : AddRequest)
      = "\x7b\"stream\":[\x7b\"variable\":\"m\x7bhost=\\\"a\\\\b\\\"\x7d\",\"value\":"
        ++ "[\x7b\"timestamp\":18446744073709551615,"
        ++ "\"string_value\":\"\\u0007\\n\x7f😀/\"\x7d]\x7d]\x7d" ∧
    message AddRequest (ofMessage (⟨[noted]⟩ : AddRequest)) = .ok ⟨[noted]⟩ ∧
    message GetResponse (ofMessage (⟨false, some "no\r", [noted]⟩ : GetResponse))
      = .ok ⟨false, some "no\r", [noted]⟩ ∧
    message ListResponse (ofMessage (⟨true, none, [noted, noted]⟩ : ListResponse))
      = .ok ⟨true, none, [noted, noted]⟩ :=
  ⟨by decide, messages_restored.2.2.2.1 _ (by decide), messages_restored.2.2.2.2.1 _ (by decide),
    messages_restored.2.2.2.2.2.1 _ (by decide)⟩

end Json

end Meterboard
