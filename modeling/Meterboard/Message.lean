import Meterboard.Transform
import Meterboard.Wire.Kind

/-!
# Messages

What the board and the store say to each other.  A stream is named by the text of an identifier and
holds samples; a sample carries a number, a text, or both.

* `Sample`, `MetricStream`, `Mutation` — the parts of messages.
* `AddRequest`, `GetRequest`, `ListRequest` and their responses.
* `Endpoint` — the three paths of a store.
* `Message`, `Response`, `Request` — what every message can do: each has a kind on the wire, a
  response says whether the store accepted the request, and a request knows its endpoint.
-/

namespace Meterboard

open Wire (Value Kind Fields)

/-- A message that has a form on the wire. -/
class Message (α : Type) where
  /-- Its shape. -/
  kind : Kind
  /-- Its form. -/
  toValue : α → Value
  /-- The message of a form. -/
  ofValue? : Value → Option α

/-! ## Parts -/

/-- One sample of a stream; times are milliseconds since 1970. -/
structure Sample where
  timestamp : UInt64
  double? : Option Double
  text? : Option String
  /-- The end of the span that the value holds for. -/
  until? : Option UInt64
deriving DecidableEq, Inhabited

/-- The samples of one variable, in the order the store has them. -/
structure MetricStream where
  name : String
  samples : List Sample
deriving DecidableEq, Inhabited

/-- How the store changes a stream before it returns it. -/
structure Mutation where
  transform : Transform
  /-- The output interval: milliseconds from one returned sample to the next. -/
  frequency? : Option UInt32
  /-- The largest gap, in output intervals, that is interpolated across. -/
  maxGap? : Option UInt32
deriving DecidableEq, Inhabited

/-- A number of 64 bits on the wire. -/
def Wire.ofWide (n : UInt64) : Value := .natural n.toNat

/-- A number of 32 bits on the wire. -/
def Wire.ofShort (n : UInt32) : Value := .natural n.toNat

/-- A number of 64 bits from the wire. -/
def Wire.wide? (v : Value) : Option UInt64 := v.asNatural?.map (·.toUInt64)

/-- A number of 32 bits from the wire. -/
def Wire.short? (v : Value) : Option UInt32 := v.asNatural?.map (·.toUInt32)

/-- A transform from the wire, by its exact name. -/
def Wire.transform? (v : Value) : Option Transform := v.asText?.bind Transform.ofName?

instance : Message Sample where
  kind := .record
    (.cons "timestamp" .required (.natural 64)
      (.cons "double_value" .optional .double
        (.cons "string_value" .optional .text
          (.cons "end_timestamp" .optional (.natural 64) .nil))))
  toValue s := .record
    (Value.always "timestamp" (Wire.ofWide s.timestamp)
      ++ Value.whenSome "double_value" .double s.double?
      ++ Value.whenSome "string_value" .text s.text?
      ++ Value.whenSome "end_timestamp" Wire.ofWide s.until?)
  ofValue? v := do
    return ⟨← v.required? Wire.wide? "timestamp", ← v.optional? Value.asDouble? "double_value",
      ← v.optional? Value.asText? "string_value", ← v.optional? Wire.wide? "end_timestamp"⟩

instance : Message MetricStream where
  kind := .record
    (.cons "variable" .required .text
      (.cons "value" .defaulted (.list (Message.kind Sample)) .nil))
  toValue s := .record
    (Value.always "variable" (.text s.name)
      ++ Value.always "value" (.list (s.samples.map Message.toValue)))
  ofValue? v := do
    return ⟨← v.required? Value.asText? "variable",
      ← v.required? (Value.asList? Message.ofValue?) "value"⟩

instance : Message Mutation where
  kind := .record
    (.cons "sample_type" .required (.choice (Transform.all.map Transform.name))
      (.cons "sample_frequency" .optional (.natural 32)
        (.cons "max_gap_interpolate" .optional (.natural 32) .nil)))
  toValue m := .record
    (Value.always "sample_type" (.text m.transform.name)
      ++ Value.whenSome "sample_frequency" Wire.ofShort m.frequency?
      ++ Value.whenSome "max_gap_interpolate" Wire.ofShort m.maxGap?)
  ofValue? v := do
    return ⟨← v.required? Wire.transform? "sample_type",
      ← v.optional? Wire.short? "sample_frequency",
      ← v.optional? Wire.short? "max_gap_interpolate"⟩

/-! ## Endpoints -/

/-- The three things a store can be asked. -/
inductive Endpoint where
  | add
  | get
  | list
deriving DecidableEq, Repr

/-- The path under the store's address. -/
def Endpoint.path : Endpoint → String
  | .add => "/add"
  | .get => "/get"
  | .list => "/list"

/-- A response tells whether the store did what it was asked. -/
class Response (β : Type) extends Message β where
  accepted : β → Bool
  /-- The store's words on a refusal. -/
  reason? : β → Option String

/-- A request is sent to one endpoint and answered by one type of response. -/
class Request (α : Type) (β : outParam Type) [Response β] extends Message α where
  endpoint : Endpoint

/-! ## Adding samples -/

/-- Add these streams' samples to the store. -/
structure AddRequest where
  streams : List MetricStream
deriving DecidableEq, Inhabited

/-- Whether the samples were added. -/
structure AddResponse where
  accepted : Bool
  reason? : Option String
deriving DecidableEq, Inhabited

instance : Message AddRequest where
  kind := .record (.cons "stream" .required (.list (Message.kind MetricStream)) .nil)
  toValue r := .record (Value.always "stream" (.list (r.streams.map Message.toValue)))
  ofValue? v := do return ⟨← v.required? (Value.asList? Message.ofValue?) "stream"⟩

instance : Message AddResponse where
  kind := .record (.cons "success" .defaulted .flag (.cons "errormessage" .optional .text .nil))
  toValue r := .record
    (Value.always "success" (.flag r.accepted)
      ++ Value.whenSome "errormessage" .text r.reason?)
  ofValue? v := do
    return ⟨← v.required? Value.asFlag? "success", ← v.optional? Value.asText? "errormessage"⟩

instance : Response AddResponse := ⟨AddResponse.accepted, AddResponse.reason?⟩

instance : Request AddRequest AddResponse := ⟨.add⟩

/-! ## Getting streams -/

/-- How many streams a response may hold unless the request says otherwise. -/
def defaultMaxVariables : UInt32 := 100

/-- Get the streams that match a variable, within a span of time. -/
structure GetRequest where
  name : String
  minTimestamp? : Option UInt64
  maxTimestamp? : Option UInt64
  mutations : List Mutation
  maxVariables? : Option UInt32
  maxValues? : Option UInt32
deriving DecidableEq, Inhabited

/-- A request without any limits. -/
def GetRequest.ofName (name : String) : GetRequest := ⟨name, none, none, [], none, none⟩

/-- The streams that were asked for. -/
structure GetResponse where
  accepted : Bool
  reason? : Option String
  streams : List MetricStream
deriving DecidableEq, Inhabited

/-- The kind of a response that holds streams. -/
def streamsKind : Kind :=
  .record
    (.cons "success" .defaulted .flag
      (.cons "errormessage" .optional .text
        (.cons "stream" .defaulted (.list (Message.kind MetricStream)) .nil)))

/-- The form of a response that holds streams. -/
def streamsValue (accepted : Bool) (reason? : Option String) (streams : List MetricStream) :
    Value :=
  .record
    (Value.always "success" (.flag accepted)
      ++ Value.whenSome "errormessage" .text reason?
      ++ Value.always "stream" (.list (streams.map Message.toValue)))

instance : Message GetRequest where
  kind := .record
    (.cons "variable" .required .text
      (.cons "min_timestamp" .optional (.natural 64)
        (.cons "max_timestamp" .optional (.natural 64)
          (.cons "mutation" .defaulted (.list (Message.kind Mutation))
            (.cons "max_variables" .optional (.natural 32)
              (.cons "max_values" .optional (.natural 32) .nil))))))
  toValue r := .record
    (Value.always "variable" (.text r.name)
      ++ Value.whenSome "min_timestamp" Wire.ofWide r.minTimestamp?
      ++ Value.whenSome "max_timestamp" Wire.ofWide r.maxTimestamp?
      ++ Value.always "mutation" (.list (r.mutations.map Message.toValue))
      ++ Value.whenSome "max_variables" Wire.ofShort r.maxVariables?
      ++ Value.whenSome "max_values" Wire.ofShort r.maxValues?)
  ofValue? v := do
    return ⟨← v.required? Value.asText? "variable", ← v.optional? Wire.wide? "min_timestamp",
      ← v.optional? Wire.wide? "max_timestamp",
      ← v.required? (Value.asList? Message.ofValue?) "mutation",
      ← v.optional? Wire.short? "max_variables", ← v.optional? Wire.short? "max_values"⟩

instance : Message GetResponse where
  kind := streamsKind
  toValue r := streamsValue r.accepted r.reason? r.streams
  ofValue? v := do
    return ⟨← v.required? Value.asFlag? "success", ← v.optional? Value.asText? "errormessage",
      ← v.required? (Value.asList? Message.ofValue?) "stream"⟩

instance : Response GetResponse := ⟨GetResponse.accepted, GetResponse.reason?⟩

instance : Request GetRequest GetResponse := ⟨.get⟩

/-! ## Listing variables -/

/-- List the variables that match a pattern. -/
structure ListRequest where
  pattern : String
  maxVariables? : Option UInt32
  /-- Leave out variables without a sample in so many milliseconds. -/
  maxAge? : Option UInt64
deriving DecidableEq, Inhabited

/-- A request without any limits. -/
def ListRequest.ofPattern (pattern : String) : ListRequest := ⟨pattern, none, none⟩

/-- The variables that were found, as streams that need not hold samples. -/
structure ListResponse where
  accepted : Bool
  reason? : Option String
  streams : List MetricStream
deriving DecidableEq, Inhabited

instance : Message ListRequest where
  kind := .record
    (.cons "prefix" .required .text
      (.cons "max_variables" .optional (.natural 32)
        (.cons "max_age" .optional (.natural 64) .nil)))
  toValue r := .record
    (Value.always "prefix" (.text r.pattern)
      ++ Value.whenSome "max_variables" Wire.ofShort r.maxVariables?
      ++ Value.whenSome "max_age" Wire.ofWide r.maxAge?)
  ofValue? v := do
    return ⟨← v.required? Value.asText? "prefix", ← v.optional? Wire.short? "max_variables",
      ← v.optional? Wire.wide? "max_age"⟩

instance : Message ListResponse where
  kind := streamsKind
  toValue r := streamsValue r.accepted r.reason? r.streams
  ofValue? v := do
    return ⟨← v.required? Value.asFlag? "success", ← v.optional? Value.asText? "errormessage",
      ← v.required? (Value.asList? Message.ofValue?) "stream"⟩

instance : Response ListResponse := ⟨ListResponse.accepted, ListResponse.reason?⟩

instance : Request ListRequest ListResponse := ⟨.list⟩

end Meterboard
