import Meterboard.Identifier
import Meterboard.Selection
import Meterboard.Store.Call
import Meterboard.Text

/-!
# The cascade of selectors

A chart needs a metric, a host and an interface.  One listing offers metrics and hosts, another the
interfaces of the chosen pair, so a change further up asks for a new listing further down.  The
cascade hands out the listings as calls and is told their outcomes; each level counts its calls, and
only the outcome of the latest one is taken.

* `Cascade` — the three selections and the two counters.
* `Cascade.refreshTop`, `Cascade.refreshInterfaces` — issue a listing.
* `Cascade.chooseMetric`, `Cascade.chooseHost`, `Cascade.chooseInterface?` — the user's choices.
* `Cascade.apply` — take the outcome of a listing.
-/

namespace Meterboard

/-- Three selections that depend on one another, below a root. -/
structure Cascade where
  /-- The root of the metrics, without a slash at its end or with some. -/
  root : String
  metric : Selection
  host : Selection
  interface : Selection
  /-- How many listings of the top level were issued. -/
  topIssued : Nat
  /-- How many listings of interfaces were issued. -/
  interfacesIssued : Nat
deriving DecidableEq

namespace Cascade

/-- A cascade with nothing offered yet; preferred choices stay once the store offers them. -/
def start (root : String) (metric? host? interface? : Option String) : Cascade :=
  ⟨root, .preferring metric?, .preferring host?, .preferring interface?, 0, 0⟩

/-- Metric, host and interface, if all three are chosen. -/
def complete? (c : Cascade) : Option (String × String × String) := do
  return (← c.metric.current?, ← c.host.current?, ← c.interface.current?)

/-! ## Patterns -/

/-- The text that stands for any label value. -/
def anyValue : String := "*"

/-- The variable of a metric on a host and an interface. -/
def variableOf (metric host interface : String) : String :=
  (((Identifier.ofName metric).withLabel Identifier.hostLabel host).withLabel
    Identifier.interfaceLabel interface).text

/-- The pattern of every metric and host below the root. -/
def topPattern (c : Cascade) : String :=
  variableOf (Text.withoutTrailing '/' c.root ++ "/*") anyValue anyValue

/-- The pattern of every interface of a metric on a host. -/
def interfacesPattern (metric host : String) : String := variableOf metric host anyValue

/-! ## Issuing listings -/

/-- Ask for metrics and hosts. -/
def refreshTop (c : Cascade) : Cascade × ListCall :=
  let issued := c.topIssued + 1
  ({ c with topIssued := issued }, ⟨.top, issued, .ofPattern c.topPattern⟩)

/-- Ask for the interfaces of the chosen metric and host.  Without both there is nothing to ask for
and no interface to choose. -/
def refreshInterfaces (c : Cascade) : Cascade × Option ListCall :=
  match c.metric.current?, c.host.current? with
  | some metric, some host =>
      let issued := c.interfacesIssued + 1
      ({ c with interfacesIssued := issued },
        some ⟨.interfaces, issued, .ofPattern (interfacesPattern metric host)⟩)
  | _, _ => ({ c with interface := c.interface.clear }, none)

/-! ## Choices -/

/-- Choose a metric; one that is offered asks for its interfaces. -/
def chooseMetric (c : Cascade) (value : String) : Cascade × Option ListCall :=
  match c.metric.choose? value with
  | some metric => { c with metric }.refreshInterfaces
  | none => (c, none)

/-- Choose a host; one that is offered asks for its interfaces. -/
def chooseHost (c : Cascade) (value : String) : Cascade × Option ListCall :=
  match c.host.choose? value with
  | some host => { c with host }.refreshInterfaces
  | none => (c, none)

/-- Choose an interface, if it is offered. -/
def chooseInterface? (c : Cascade) (value : String) : Option Cascade :=
  (c.interface.choose? value).map fun interface => { c with interface }

/-! ## Outcomes -/

/-- What the outcome of a listing led to. -/
inductive Outcome where
  /-- A later listing of the level is on its way; nothing changed. -/
  | stale
  /-- The listing failed; nothing changed. -/
  | failed (message : String)
  /-- Metrics and hosts are new, and the interfaces have been asked for. -/
  | topReady (call : ListCall)
  /-- Options are new, but something is missing for a chart. -/
  | incomplete
  /-- Interfaces are new and everything is chosen. -/
  | ready
deriving DecidableEq

/-- The cascade after an outcome. -/
structure Applied where
  cascade : Cascade
  outcome : Outcome
  log : List Log.Entry

/-- The latest listing of a level. -/
def issued (c : Cascade) : Level → Nat
  | .top => c.topIssued
  | .interfaces => c.interfacesIssued

/-- The identifiers among the variables of a listing; other variables are passed over. -/
def identifiers (r : ListResponse) : List Identifier :=
  r.streams.filterMap fun s => Identifier.parse? s.name

/-- The values of a label, as far as identifiers carry it. -/
def labelValues (key : String) (ids : List Identifier) : List String :=
  ids.filterMap (·.label? key)

/-- Take the identifiers of a listing of the top level. -/
def takeTop (c : Cascade) (ids : List Identifier) : Cascade × Outcome :=
  let c := { c with
    metric := c.metric.replace (ids.map Identifier.name)
    host := c.host.replace (labelValues Identifier.hostLabel ids) }
  match c.refreshInterfaces with
  | (c, some call) => (c, .topReady call)
  | (c, none) => (c, .incomplete)

/-- Take the identifiers of a listing of interfaces. -/
def takeInterfaces (c : Cascade) (ids : List Identifier) : Cascade × Outcome :=
  let c := { c with
    interface := c.interface.replace (labelValues Identifier.interfaceLabel ids) }
  (c, if c.complete?.isSome then .ready else .incomplete)

/-- Take the outcome of a listing. -/
def apply (c : Cascade) (level : Level) (generation : Nat)
    (result : Except StoreError ListResponse) : Applied :=
  if generation ≠ c.issued level then
    ⟨c, .stale, [⟨.debug, "dropping stale " ++ level.name ++ " list (generation "
      ++ toString generation ++ " < " ++ toString (c.issued level) ++ ")"⟩]⟩
  else
    match result with
    | .error e =>
        ⟨c, .failed e.userMessage, [⟨.warn, level.name ++ " list failed: " ++ e.message⟩]⟩
    | .ok response =>
        let (c, outcome) :=
          match level with
          | .top => c.takeTop (identifiers response)
          | .interfaces => c.takeInterfaces (identifiers response)
        ⟨c, outcome, []⟩

end Cascade

end Meterboard
