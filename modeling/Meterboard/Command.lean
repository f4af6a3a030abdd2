import Meterboard.Calendar
import Meterboard.CommandLine
import Meterboard.Double.Decimal
import Meterboard.Store.Exchange

/-!
# Commands

A command sends one request to the store and prints what comes back.

* `Command.Report` — the printed lines, the log and how the command ended.
* `Command.run` — a command against a network, in a time zone, at a time of the clock.
* `Command.timeText` — the time of a sample as it is printed, in local time.
-/

namespace Meterboard.Command

/-- What a command did. -/
structure Report where
  printed : List String
  log : List Log.Entry
  /-- The command failed, and why. -/
  failure? : Option String

/-- The time of a sample, in local time.  A time beyond the signed 64-bit range wraps to before
1970, and what the calendar cannot show is left empty. -/
def timeText (zone : Calendar.Zone) (timestamp : UInt64) : String :=
  match zone.moment? timestamp.toInt64.toInt with
  | some m => m.full
  | none => ""

/-- The line of a sample: its variable, its time, and its number or else its text.  A sample with
neither has no line. -/
def line? (zone : Calendar.Zone) (name : String) (s : Sample) : Option String :=
  let front := name ++ "\t" ++ timeText zone s.timestamp ++ "\t"
  match s.double?, s.text? with
  | some x, _ => some (front ++ x.fixed 6)
  | none, some t => some (front ++ t)
  | none, none => none

/-- The lines of all samples, stream by stream. -/
def sampleLines (zone : Calendar.Zone) (streams : List MetricStream) : List String :=
  streams.flatMap fun s => s.samples.filterMap (line? zone s.name)

/-- Put a text into an ascending list, behind its equals. -/
def insertText (x : String) : List String → List String
  | [] => [x]
  | y :: ys => if x < y then x :: y :: ys else y :: insertText x ys

/-- The variables of a listing in ascending order; equal ones stay. -/
def variableLines (streams : List MetricStream) : List String :=
  streams.foldl (fun done s => insertText s.name done) []

variable {m : Type → Type} [Monad m]

/-- Send a request and print from its response. -/
def request {α β : Type} [Response β] [Request α β]
    (exchange : Post → m (Except ExchangeError String)) (before : List Log.Entry) (r : α)
    (report : β → List String × List Log.Entry) : m Report := do
  let sent ← Transport.send Codec.standard exchange r
  match sent.result with
  | .error e => return ⟨[], before ++ sent.log, some e.message⟩
  | .ok response =>
      let (printed, log) := report response
      return ⟨printed, before ++ sent.log ++ log, none⟩

/-- A command that was refused before a request was made. -/
def refused (refusal : Window.Refusal) : Report := ⟨[], [], some refusal.message⟩

/-- Run a command against a store, in a time zone, at a time in milliseconds since 1970. -/
def run (zone : Calendar.Zone) (exchange : Post → m (Except ExchangeError String)) (now : UInt64) :
    Command → m Report
  | .list pattern maxVariables? none =>
      request exchange [] { ListRequest.ofPattern pattern with maxVariables? }
        fun (r : ListResponse) => (variableLines r.streams, [])
  | .list pattern maxVariables? (some age) =>
      match Window.ofText age with
      | .error refusal => return refused refusal
      | .ok window =>
          request exchange window.log
            { ListRequest.ofPattern pattern with
              maxVariables?, maxAge? := some (Window.millis window.seconds) }
            fun (r : ListResponse) => (variableLines r.streams, [])
  | .get name text maxVariables? maxValues? transform? =>
      match Window.ofText text with
      | .error refusal => return refused refusal
      | .ok window =>
          request exchange window.log
            { GetRequest.ofName name with
              minTimestamp? := some (View.windowStart window.seconds now)
              maxVariables?, maxValues?
              mutations := transform?.toList.map fun t => ⟨t, none, none⟩ }
            fun (r : GetResponse) => (sampleLines zone r.streams, [])
  | .add name value timestamp? =>
      let timestamp := timestamp?.getD now
      request exchange [] (⟨[⟨name, [⟨timestamp, some value, none, none⟩]⟩]⟩ : AddRequest)
        fun (_ : AddResponse) => ([], [⟨.info, "added 1 value at " ++ toString timestamp.toNat⟩])

end Meterboard.Command
