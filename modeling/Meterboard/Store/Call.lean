import Meterboard.Store.Transport

/-!
# Calls of the board

The board hands out calls and is told their outcomes later, in any order.  Each call carries the
generation it was issued in, so that an outcome that came too late can be told from the latest one.

* `ListCall`, `GetCall`, `StoreCall` — calls; a list call belongs to a level of the selectors.
* `StoreReply` — the outcome of a call, with the mark of the call.
* `StoreCall.send` — carry out a call.
* `StoreSource` — what carries calls for the board, seen from the board.
-/

namespace Meterboard

/-- The two listings that fill the selectors. -/
inductive Level where
  /-- Metrics and hosts below the root. -/
  | top
  /-- Interfaces of the chosen metric and host. -/
  | interfaces
deriving DecidableEq, Repr

/-- The name of a level in log entries. -/
def Level.name : Level → String
  | .top => "TopLevel"
  | .interfaces => "Interfaces"

/-- A listing to be sent. -/
structure ListCall where
  level : Level
  generation : Nat
  request : ListRequest
deriving DecidableEq

/-- A query to be sent. -/
structure GetCall where
  generation : Nat
  request : GetRequest
deriving DecidableEq

/-- A call of either kind. -/
inductive StoreCall where
  | list (call : ListCall)
  | get (call : GetCall)
deriving DecidableEq

/-- The outcome of a call. -/
inductive StoreReply where
  | list (level : Level) (generation : Nat) (result : Except StoreError ListResponse)
  | get (generation : Nat) (result : Except StoreError GetResponse)

/-- The call succeeded. -/
def StoreReply.isOk : StoreReply → Bool
  | .list _ _ (.ok _) => true
  | .get _ (.ok _) => true
  | _ => false

/-- How much work a reply may lead to, itself included: a listing of the top level may be followed
by one of the interfaces, and that by a query. -/
def Level.weight : Level → Nat
  | .top => 3
  | .interfaces => 2

/-- See `Level.weight`. -/
def StoreReply.weight : StoreReply → Nat
  | .list level _ _ => level.weight
  | .get _ _ => 1

/-- See `Level.weight`. -/
def StoreCall.weight : StoreCall → Nat
  | .list call => call.level.weight
  | .get _ => 1

/-- The weights of calls, or of replies, together. -/
def totalWeight {α : Type} (weight : α → Nat) : List α → Nat
  | [] => 0
  | x :: xs => weight x + totalWeight weight xs

theorem totalWeight_concat {α : Type} (weight : α → Nat) (xs : List α) (x : α) :
    totalWeight weight (xs ++ [x]) = totalWeight weight xs + weight x := by
  induction xs with
  | nil => exact Nat.add_comm (weight x) 0
  | cons y ys ih => rw [List.cons_append, totalWeight, totalWeight, ih, Nat.add_assoc]

/-- Carry out a call. -/
def StoreCall.send {m : Type → Type} [Monad m] (codec : Codec)
    (exchange : Post → m (Except ExchangeError String)) :
    StoreCall → m (StoreReply × List Log.Entry)
  | .list call => do
      let sent ← Transport.send codec exchange call.request
      return (.list call.level call.generation sent.result,
        ⟨.debug, "list " ++ call.request.pattern⟩ :: sent.log)
  | .get call => do
      let sent ← Transport.send codec exchange call.request
      return (.get call.generation sent.result,
        ⟨.debug, "get " ++ call.request.name⟩ :: sent.log)

/-- What carries calls for the board.  It answers later, when it is polled.  The first four are what
the board asks of it; the rest says that polling comes to an end. -/
class StoreSource (σ : Type) where
  /-- Start a call. -/
  submit : σ → StoreCall → σ
  /-- Take the next reply that is there. -/
  poll? : σ → Option (StoreReply × σ)
  /-- Where calls go. -/
  description : σ → String
  /-- How many calls have not been answered. -/
  inFlight : σ → Nat
  /-- A bound on the weights of the replies that polling can still yield. -/
  pending : σ → Nat
  /-- A call adds no more than its own weight. -/
  pending_submit : ∀ (s : σ) (call : StoreCall), pending (submit s call) ≤ pending s + call.weight
  /-- A reply takes away its own weight. -/
  pending_poll : ∀ {s rest : σ} {reply : StoreReply}, poll? s = some (reply, rest) →
    pending rest + reply.weight ≤ pending s

end Meterboard
