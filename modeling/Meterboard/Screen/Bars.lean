import Meterboard.Screen.Row

/-!
# Header, selectors and status

The three bars of one row each: what the board talks to and how that goes, what is chosen, and what
to expect next.

* `Board.headerSpans`, `Board.selectorSpans`, `Board.statusText`.
-/

namespace Meterboard.Board

open Screen (Span)

variable {σ : Type}

/-- The line between two parts of a bar. -/
def divider : String := "│"

/-- Whole seconds; a half goes to the even neighbour. -/
def nearestSeconds (millis : Nat) : String := toString (Double.divEven millis 1000)

/-- The header: a light that shows a failure, the store, the calls that are on their way, and the
age of the data. -/
def headerSpans [StoreSource σ] (b : Board σ) (now : Clock) : List Span :=
  let light := if b.lastError?.isSome then b.theme.error else b.theme.highlight
  let pending := StoreSource.inFlight b.source
  let calls := if pending = 0 then "" else " │ " ++ toString pending ++ " pending"
  let age := match b.updatedAgo? now with
    | some millis => " │ updated " ++ nearestSeconds millis ++ "s ago"
    | none => ""
  [⟨" ● ", .of light⟩, ⟨"INSTRUMENT ", .strong .reset⟩,
   ⟨"│ " ++ StoreSource.description b.source ++ calls ++ age, .plain⟩]

/-- The last segment of a path. -/
def lastSegment (path : String) : String :=
  String.ofList (path.toList.reverse.takeWhile (· ≠ '/')).reverse

/-- What stands for a choice that is missing. -/
def nothingChosen : String := "-"

/-- The mark behind text that is being typed. -/
def caret : String := "▏"

/-- What a selector shows. -/
def selectorValue (b : Board σ) : Selector → String
  | .metric => (b.view.cascade.metric.current?.map lastSegment).getD nothingChosen
  | .host => b.view.cascade.host.current?.getD nothingChosen
  | .interface => b.view.cascade.interface.current?.getD nothingChosen
  | .transform => b.view.transform.name
  | .window =>
      match b.windowInput? with
      | some text => text ++ caret
      | none => b.view.windowLabel

/-- A selector with its value. -/
def selectorSpan (b : Board σ) (s : Selector) : Span :=
  ⟨" " ++ s.label ++ ": " ++ b.selectorValue s ++ " ",
   if s = b.focus then b.theme.focused else b.theme.unfocused⟩

/-- All selectors, with lines between them. -/
def selectorSpans (b : Board σ) : List Span :=
  (Selector.all.map b.selectorSpan).intersperse ⟨divider, .plain⟩

/-- How a window is typed. -/
def windowHint : String := " Window (e.g. 30m, 6h, 2d, 1w) | Enter:apply Esc:cancel"

/-- The keys that are always there. -/
def keyHint : String :=
  " | Tab:focus ←→:change <>:window w:type drag:zoom z:unzoom ?:help q:quit"

/-- What the status bar says about the refetch timer, the zoom and the last failure. -/
def outlook (b : Board σ) (now : Clock) : String :=
  let next := match b.refetchIn? now with
    | some millis => "next fetch " ++ toString (millis / 1000) ++ "s"
    | none => "idle"
  let zoom := if b.view.zoom.isZoomed then " | zoom depth " ++ toString b.view.zoom.depth else ""
  let error := match b.lastError? with
    | some text => " | Error: " ++ text
    | none => ""
  " " ++ next ++ zoom ++ error ++ keyHint

/-- The status bar: a message while there is one, the hint for typing while that goes on, and else
the outlook. -/
def statusText (b : Board σ) (now : Clock) : String :=
  match b.shownMessage? now with
  | some text => " " ++ text ++ " "
  | none => if b.windowInput?.isSome then windowHint else b.outlook now

end Meterboard.Board
