import Meterboard.Text
import Meterboard.Store.Error

/-!
# Sending requests

A request is written as text, posted to its endpoint and answered by a text that is read as the
response.  Every request makes one post and has one outcome; nothing is sent again.

* `Post` — what reaches the store.
* `Transport.post` — the post of a request, with what there is to log.
* `Transport.receive` — the outcome of the answer, with what there is to log.
* `Transport.send` — both, around the round trip itself, which may run in any monad.
-/

namespace Meterboard

/-- One body on its way to the store. -/
structure Post where
  endpoint : Endpoint
  contentType : String
  body : String
deriving DecidableEq, Repr

/-- The outcome of a call, and the log entries on the way to it. -/
structure Sent (β : Type) where
  result : Except StoreError β
  log : List Log.Entry

namespace Transport

/-- A character that ends a line. -/
def isLineEnd (c : Char) : Bool := c = '\n' || c = '\r'

/-- A body on one line.  A codec that breaks lines has them taken out, which is worth a warning. -/
def onOneLine (e : Endpoint) (body : String) : String × List Log.Entry :=
  if body.toList.any isLineEnd then
    (String.ofList (body.toList.filter (!isLineEnd ·)),
      [⟨.warn, "encoded " ++ e.path
        ++ " body contained newlines; stripping them may corrupt the payload"⟩])
  else (body, [])

/-- The reason that is given for a refusal without one. -/
def noReason : String := "request failed without a message"

variable {α β : Type} [Response β] [Request α β]

/-- The post of a request. -/
def post (codec : Codec) (r : α) : Post × List Log.Entry :=
  let e := Request.endpoint α
  let (body, log) := onOneLine e (codec.encode r)
  (⟨e, codec.contentType, body⟩, log)

/-- The outcome of a call to an endpoint from what came back. -/
def receive (β : Type) [Response β] (e : Endpoint) : Except ExchangeError String → Sent β
  | .error cause =>
      let err := StoreError.transport e cause
      ⟨.error err, [⟨.warn, err.message⟩]⟩
  | .ok text =>
      match decodeMessage β text with
      | .error cause => ⟨.error (.codec e cause), []⟩
      | .ok response =>
          if Response.accepted response then ⟨.ok response, []⟩
          else
            let reason := (Response.reason? response).getD noReason
            ⟨.error (.rejected e reason), [⟨.debug, e.path ++ " rejected: " ++ reason⟩]⟩

/-- Send a request: one post through `exchange`, whose answer is the outcome. -/
def send {m : Type → Type} [Monad m] (codec : Codec)
    (exchange : Post → m (Except ExchangeError String)) (r : α) : m (Sent β) := do
  let (p, warnings) := post codec r
  let answer ← exchange p
  let sent := receive β p.endpoint answer
  return ⟨sent.result, warnings ++ sent.log⟩

end Transport

end Meterboard
