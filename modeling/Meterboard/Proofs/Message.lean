import Meterboard.Message
import Meterboard.Proofs.Wire.Kind

/-!
# Lawful messages

A message is turned into a value and a value into a message by two functions that are written apart
from the kind.  The three agree: the value of a message is of the message's kind, and the message of
that value is the message.  Each format then only has to bring values of a kind back.

* `LawfulMessage` — what the formats rely on; an instance for each message and its parts.
-/

namespace Meterboard

open Wire (Value Kind Fields)

/-- The kind, the value and the reader of a type of messages agree. -/
class LawfulMessage (α : Type) [Message α] : Prop where
  tidy : (Message.kind α).tidy
  holds (m : α) : (Message.kind α).Holds (Message.toValue m)
  ofValue?_toValue (m : α) : Message.ofValue? (Message.toValue m) = some m

namespace Wire

/-! ## Records of a kind -/

section

variable {name : String} {presence : Presence} {kind : Kind} {rest : Fields}
  {entries : List (String × Value)}

lemma Fields.Holds.always {v : Value} (hv : kind.Holds v) (hrest : rest.Holds entries) :
    (Fields.cons name presence kind rest).Holds (Value.always name v ++ entries) :=
  .written hv hrest

lemma Fields.Holds.whenSome {α : Type} {f : α → Value} (hf : ∀ a, kind.Holds (f a))
    (o : Option α) (hrest : rest.Holds entries) :
    (Fields.cons name .optional kind rest).Holds (Value.whenSome name f o ++ entries) := by
  cases o with
  | none => exact .leftOut hrest
  | some a => exact .written (hf a) hrest

lemma Fields.Holds.lastAlways {v : Value} (hv : kind.Holds v) :
    (Fields.cons name presence kind .nil).Holds (Value.always name v) :=
  .written hv .nil

lemma Fields.Holds.lastSome {α : Type} {f : α → Value} (hf : ∀ a, kind.Holds (f a))
    (o : Option α) : (Fields.cons name .optional kind .nil).Holds (Value.whenSome name f o) := by
  cases o with
  | none => exact .leftOut .nil
  | some a => exact .written (hf a) .nil

end

lemma holds_ofWide (n : UInt64) : (Kind.natural 64).Holds (ofWide n) := .natural n.toNat_lt

lemma holds_ofShort (n : UInt32) : (Kind.natural 32).Holds (ofShort n) := .natural n.toNat_lt

lemma holds_transform (t : Transform) :
    (Kind.choice (Transform.all.map Transform.name)).Holds (.text t.name) :=
  .choice (List.mem_map_of_mem (by cases t <;> decide))

lemma holds_list {α : Type} [Message α] [LawfulMessage α] (ms : List α) :
    (Kind.list (Message.kind α)).Holds (.list (ms.map Message.toValue)) := by
  refine .list fun v hv => ?_
  obtain ⟨m, _, rfl⟩ := List.mem_map.1 hv
  exact LawfulMessage.holds m

/-! ## Fields of records -/

lemma field?_record (entries : List (String × Value)) (name : String) :
    (Value.record entries).field? name = valueOf? entries name := rfl

@[simp] lemma valueOf?_always (name other : String) (v : Value) :
    valueOf? (Value.always name v) other = if name = other then some v else none := by
  by_cases h : name = other
  · subst h
    rw [if_pos rfl]
    exact valueOf?_cons_self name v []
  · rw [if_neg h]
    exact valueOf?_cons_of_ne (Ne.symm h) v []

@[simp] lemma valueOf?_whenSome {α : Type} (name other : String) (f : α → Value) (o : Option α) :
    valueOf? (Value.whenSome name f o) other = if name = other then o.map f else none := by
  cases o with
  | none => exact (ite_self _).symm
  | some a => exact valueOf?_always name other (f a)

@[simp] lemma required?_record {α : Type} (f : Value → Option α) (entries : List (String × Value))
    (name : String) : (Value.record entries).required? f name = (valueOf? entries name).bind f :=
  rfl

@[simp] lemma optional?_record {α : Type} (f : Value → Option α) (entries : List (String × Value))
    (name : String) : (Value.record entries).optional? f name = (valueOf? entries name).mapM f := by
  rw [Value.optional?, field?_record]
  cases valueOf? entries name with
  | none => rfl
  | some v => cases h : f v <;> simp [h]

/-- A field that may be absent is read back when its value is. -/
@[simp] lemma mapM_map_eq_self {α β : Type} {f : β → Option α} {g : α → β} (o : Option α)
    (hread : ∀ a, f (g a) = some a) : (o.map g).mapM f = some o := by
  cases o with
  | none => rfl
  | some a => simp [hread]

@[simp] lemma wide?_ofWide (n : UInt64) : wide? (ofWide n) = some n := by
  simp [wide?, ofWide, Value.asNatural?, Nat.toUInt64]

@[simp] lemma short?_ofShort (n : UInt32) : short? (ofShort n) = some n := by
  simp [short?, ofShort, Value.asNatural?, Nat.toUInt32]

@[simp] lemma asFlag?_flag (b : Bool) : (Value.flag b).asFlag? = some b := by
  simp only [Value.asFlag?]

@[simp] lemma asDouble?_double (x : Double) : (Value.double x).asDouble? = some x := by
  simp only [Value.asDouble?]

@[simp] lemma asText?_text (s : String) : (Value.text s).asText? = some s := by
  simp only [Value.asText?]

@[simp] lemma transform?_name (t : Transform) : transform? (.text t.name) = some t :=
  Transform.ofName?_name t

@[simp] lemma asList?_map {α : Type} [Message α] [LawfulMessage α] (ms : List α) :
    Value.asList? Message.ofValue? (.list (ms.map Message.toValue)) = some ms := by
  rw [Value.asList?, mapM_map_eq_some fun m _ => LawfulMessage.ofValue?_toValue m]
  exact congrArg some (List.map_id ms)

end Wire

open Wire

/-! ## Parts -/

instance : LawfulMessage Sample where
  tidy := by decide
  holds s := by
    refine .record ?_
    simp only [List.append_assoc]
    exact .always (holds_ofWide _)
      (.whenSome .double _ (.whenSome .text _ (.lastSome holds_ofWide _)))
  ofValue?_toValue s := by
    delta instMessageSample
    simp

instance : LawfulMessage MetricStream where
  tidy := by decide
  holds s := by
    refine .record ?_
    exact .always (.text _) (.lastAlways (holds_list _))
  ofValue?_toValue s := by
    -- the instance of the samples stays folded, so that `asList?_map` applies to it
    delta instMessageMetricStream
    simp

instance : LawfulMessage Mutation where
  tidy := by decide
  holds m := by
    refine .record ?_
    simp only [List.append_assoc]
    exact .always (holds_transform _) (.whenSome holds_ofShort _ (.lastSome holds_ofShort _))
  ofValue?_toValue m := by
    delta instMessageMutation
    simp

/-! ## Requests -/

instance : LawfulMessage AddRequest where
  tidy := by decide
  holds r := .record (.lastAlways (holds_list _))
  ofValue?_toValue r := by
    delta instMessageAddRequest
    simp

instance : LawfulMessage GetRequest where
  tidy := by decide
  holds r := by
    refine .record ?_
    simp only [List.append_assoc]
    exact .always (.text _) (.whenSome holds_ofWide _ (.whenSome holds_ofWide _
      (.always (holds_list _) (.whenSome holds_ofShort _ (.lastSome holds_ofShort _)))))
  ofValue?_toValue r := by
    delta instMessageGetRequest
    simp

instance : LawfulMessage ListRequest where
  tidy := by decide
  holds r := by
    refine .record ?_
    simp only [List.append_assoc]
    exact .always (.text _) (.whenSome holds_ofShort _ (.lastSome holds_ofWide _))
  ofValue?_toValue r := by
    delta instMessageListRequest
    simp

/-! ## Responses -/

instance : LawfulMessage AddResponse where
  tidy := by decide
  holds r := .record (.always (.flag _) (.lastSome .text _))
  ofValue?_toValue r := by
    delta instMessageAddResponse
    simp

lemma holds_streamsValue (accepted : Bool) (reason? : Option String)
    (streams : List MetricStream) :
    streamsKind.Holds (streamsValue accepted reason? streams) := by
  refine .record ?_
  simp only [List.append_assoc]
  exact .always (.flag _) (.whenSome .text _ (.lastAlways (holds_list _)))

instance : LawfulMessage GetResponse where
  tidy := by decide
  holds r := holds_streamsValue _ _ _
  ofValue?_toValue r := by
    delta instMessageGetResponse
    simp [streamsValue]

instance : LawfulMessage ListResponse where
  tidy := by decide
  holds r := holds_streamsValue _ _ _
  ofValue?_toValue r := by
    delta instMessageListResponse
    simp [streamsValue]

end Meterboard
