import Meterboard.Store.Call
import Meterboard.Text

/-!
# The courier

The courier carries the board's calls to a store.  Calls run beside the board and finish in any
order; finished replies wait in the order in which they finished until the board asks.

* `Courier` — the calls that run, the replies that wait, and a count.
* `Courier.finish` — a running call comes to its reply.
* `Courier.runAll` — all running calls, one after the other.
-/

namespace Meterboard

/-- Carries calls to a store. -/
structure Courier where
  /-- The store, in words. -/
  description : String
  /-- Calls that have not finished, in the order they were submitted. -/
  running : List StoreCall
  /-- Replies that have not been taken. -/
  finished : List StoreReply
  /-- Calls submitted less replies taken. -/
  inFlight : Nat

namespace Courier

/-- A courier to a store of this description. -/
def toStore (store : String) : Courier := ⟨"store: " ++ store, [], [], 0⟩

/-- Start a call. -/
def submit (c : Courier) (call : StoreCall) : Courier :=
  { c with running := c.running ++ [call], inFlight := c.inFlight + 1 }

/-- Take the reply that finished first. -/
def poll? (c : Courier) : Option (StoreReply × Courier) :=
  match c.finished with
  | [] => none
  | r :: rest => some (r, { c with finished := rest, inFlight := c.inFlight - 1 })

/-- The reply to a call from the outcome of its exchange. -/
def replyTo (codec : Codec) (answer : Except ExchangeError String) (call : StoreCall) :
    StoreReply × List Log.Entry :=
  Id.run (call.send codec fun _ => answer)

/-- The running call at a place comes to a reply. -/
def finish (c : Courier) (place : Nat) (reply : StoreReply) : Courier :=
  { c with running := c.running.eraseIdx place, finished := c.finished ++ [reply] }

/-- Run calls one after the other. -/
def runCalls {m : Type → Type} [Monad m] (codec : Codec)
    (exchange : Post → m (Except ExchangeError String)) :
    List StoreCall → m (List StoreReply × List Log.Entry)
  | [] => return ([], [])
  | call :: calls => do
      let (reply, log) ← call.send codec exchange
      let (replies, logs) ← runCalls codec exchange calls
      return (reply :: replies, log ++ logs)

/-- Run all calls to their replies, in the order they were submitted. -/
def runAll {m : Type → Type} [Monad m] (c : Courier) (codec : Codec)
    (exchange : Post → m (Except ExchangeError String)) : m (Courier × List Log.Entry) := do
  let (replies, log) ← runCalls codec exchange c.running
  return ({ c with running := [], finished := c.finished ++ replies }, log)

/-- The courier in words, for diagnosis. -/
def summary (c : Courier) : String :=
  "RemoteSource \x7b description: " ++ Text.quoted c.description ++ ", in_flight: "
    ++ toString c.inFlight ++ ", .. \x7d"

/-- The weights of all calls and replies together. -/
def weight (c : Courier) : Nat :=
  totalWeight StoreCall.weight c.running + totalWeight StoreReply.weight c.finished

/-- A reply that is taken was the first of those that waited. -/
theorem poll?_eq_some {c rest : Courier} {reply : StoreReply} (h : c.poll? = some (reply, rest)) :
    ∃ waiting, c.finished = reply :: waiting ∧
      rest = { c with finished := waiting, inFlight := c.inFlight - 1 } := by
  unfold poll? at h
  split at h
  · cases h
  · rename_i first waiting hfinished
    cases h
    exact ⟨waiting, hfinished, rfl⟩

instance : StoreSource Courier where
  submit := submit
  poll? := poll?
  description := description
  inFlight := inFlight
  pending := weight
  pending_submit c call := by
    simp only [weight, submit, totalWeight_concat]
    omega
  pending_poll h := by
    obtain ⟨waiting, hfinished, rfl⟩ := poll?_eq_some h
    simp only [weight, hfinished, totalWeight]
    omega

end Courier

end Meterboard
