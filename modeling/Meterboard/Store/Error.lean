import Meterboard.Codec

/-!
# Store errors

A call to the store fails in one of three ways: its body could not be carried to the store and back,
a body could not be written or read as a message, or the store refused the request.

* `ExchangeError` — why a body was not carried.
* `StoreError`, `StoreError.message` — the failed call and its wording.
* `StoreError.userMessage` — what the board shows: of a refusal only the store's own words.
-/

namespace Meterboard

/-- Why one round trip of a request failed. -/
inductive ExchangeError where
  /-- The answer had a status other than success. -/
  | status (code : Nat)
  /-- No connection to the store. -/
  | connection (reason : String)
  /-- No answer in time. -/
  | timeout
  /-- Any other failure of the round trip. -/
  | http (reason : String)
deriving DecidableEq, Repr

/-- The wording of an exchange error. -/
def ExchangeError.message : ExchangeError → String
  | .status code => "HTTP status " ++ toString code
  | .connection reason => "Connection failed: " ++ reason
  | .timeout => "Request timed out"
  | .http reason => "HTTP request failed: " ++ reason

/-- Why a call to an endpoint failed. -/
inductive StoreError where
  | transport (endpoint : Endpoint) (cause : ExchangeError)
  | codec (endpoint : Endpoint) (cause : CodecError)
  | rejected (endpoint : Endpoint) (reason : String)
deriving DecidableEq, Repr

namespace StoreError

/-- The endpoint that was called. -/
def endpoint : StoreError → Endpoint
  | .transport e _ => e
  | .codec e _ => e
  | .rejected e _ => e

/-- The wording of the error. -/
def message : StoreError → String
  | .transport e cause => "Error in " ++ e.path ++ " request: " ++ cause.message
  | .codec e cause => "Error in " ++ e.path ++ " request: " ++ cause.message
  | .rejected e reason => e.path ++ " failed: " ++ reason

/-- What is shown to the user: the store's own words when it refused, otherwise the wording of the
error. -/
def userMessage : StoreError → String
  | .rejected _ reason => reason
  | e => e.message

/-- The failure is one of the way to the store, not of what was said. -/
def isTransport : StoreError → Bool
  | .transport _ _ => true
  | _ => false

end StoreError

end Meterboard
