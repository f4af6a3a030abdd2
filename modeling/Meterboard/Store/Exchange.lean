import Meterboard.Store.Transport
import Meterboard.Store.Url
import Meterboard.Text

/-!
# Exchanges over HTTP

* `Exchange` — the address of a store and how long to wait for it.
* `Exchange.request` — the HTTP request of a post, unless the address cannot be used.
* `Exchange.outcome` — what an HTTP answer means for the post.
-/

namespace Meterboard

/-- Where posts go. -/
structure Exchange where
  /-- The address without slashes at its end. -/
  base : String
  /-- How long to wait for an answer, in milliseconds. -/
  timeout : Nat
deriving Repr

/-- A request to a web server. -/
structure HttpRequest where
  url : Url
  contentType : String
  body : String
deriving Repr

/-- What comes of a request to a web server. -/
inductive HttpAnswer where
  | response (status : Nat) (body : String)
  | noConnection
  | noAnswer
deriving Repr

namespace Exchange

/-- The address that is used unless another is given. -/
def defaultBase : String := "http://localhost:8020"

/-- Seconds to wait unless told otherwise. -/
def defaultTimeout : Nat := 10000

/-- An exchange with a store. -/
def of (base? : Option String) (timeout? : Option Nat) : Exchange :=
  ⟨Text.withoutTrailing '/' (base?.getD defaultBase), timeout?.getD defaultTimeout⟩

/-- A header can hold this text. -/
def isHeaderText (s : String) : Bool :=
  s.toList.all fun c => c = '\t' || (0x20 ≤ c.toNat && c.toNat ≠ 0x7F)

/-- The request for a post to a path. -/
def request (x : Exchange) (path contentType body : String) :
    Except ExchangeError HttpRequest :=
  match Url.parse? (x.base ++ path) with
  | some url =>
      if isHeaderText contentType then .ok ⟨url, contentType, body⟩
      else .error (.http "builder error")
  | none => .error (.http "builder error")

/-- A body without the byte order mark it may start with. -/
def withoutMark (s : String) : String :=
  match s.toList with
  | c :: rest => if c = '\uFEFF' then String.ofList rest else s
  | [] => s

/-- What an answer means: only a status of the two hundreds is a success, and one of 204 has no
body. -/
def outcome (r : HttpRequest) : HttpAnswer → Except ExchangeError String
  | .noConnection => .error (.connection ("error sending request for url (" ++ r.url.text ++ ")"))
  | .noAnswer => .error .timeout
  | .response status body =>
      if status = 204 then .ok ""
      else if 200 ≤ status ∧ status < 300 then .ok (withoutMark body)
      else .error (.status status)

/-- One round trip through a network. -/
def post {m : Type → Type} [Monad m] (x : Exchange) (network : HttpRequest → m HttpAnswer)
    (path contentType body : String) : m (Except ExchangeError String) := do
  match x.request path contentType body with
  | .error e => return .error e
  | .ok r => return outcome r (← network r)

/-- Carry posts to the endpoints below the address. -/
def carry {m : Type → Type} [Monad m] (x : Exchange) (network : HttpRequest → m HttpAnswer)
    (p : Post) : m (Except ExchangeError String) :=
  x.post network p.endpoint.path p.contentType p.body

end Exchange

end Meterboard
