import Meterboard.Cascade
import Meterboard.Series
import Meterboard.Text
import Meterboard.Window

/-!
# The view

The view decides what the board shows and what happens next.  It is told of one event at a time and
answers with the effects that somebody else has to carry out; it does nothing itself.

* `View` — selectors, window, transform, zoom and the series that were fetched.
* `View.Event`, `View.Effect` — what it is told, and what it asks for.
* `View.handle` — one event.
* `View.bounds?`, `View.top` — the axes of the chart.
-/

namespace Meterboard

/-- How the view starts. -/
structure ViewSettings where
  root : String
  metric? : Option String
  host? : Option String
  interface? : Option String
  /-- The window in seconds. -/
  window : Int
  transform : Transform
deriving DecidableEq

/-- The root of the metrics unless another is given. -/
def ViewSettings.defaultRoot : String := "/network/interface/stats"

/-- The window unless another is given: twelve hours. -/
def ViewSettings.defaultWindow : Int := (12 * Duration.Unit.hour.seconds : Nat)

/-- No preferences. -/
instance : Inhabited ViewSettings :=
  ⟨⟨ViewSettings.defaultRoot, none, none, none, ViewSettings.defaultWindow, default⟩⟩

/-- What is shown, and what it was fetched with. -/
structure View where
  cascade : Cascade
  /-- The window in seconds. -/
  window : Int
  transform : Transform
  zoom : Zoom
  series : List ChartSeries
  /-- How many queries were issued. -/
  getsIssued : Nat
  /-- The span that the latest query asked for. -/
  requested? : Option AxisRange
deriving DecidableEq

namespace View

/-- Everything that can happen to the view. -/
inductive Event where
  /-- Fill the selectors from nothing. -/
  | start
  | metricSelected (value : String)
  | hostSelected (value : String)
  | interfaceSelected (value : String)
  | transformSelected (transform : Transform)
  | windowDoubled
  | windowHalved
  /-- A window was typed. -/
  | windowEntered (text : String)
  | zoomSelected (range : AxisRange)
  | zoomOut
  /-- The refetch timer fired, or the user asked for new data. -/
  | refetch
  | listCompleted (level : Level) (generation : Nat) (result : Except StoreError ListResponse)
  | getCompleted (generation : Nat) (result : Except StoreError GetResponse)

/-- What the view asks for. -/
inductive Effect where
  | list (call : ListCall)
  | get (call : GetCall)
  /-- Draw the current state. -/
  | render
  /-- Set the one refetch timer to so many milliseconds from now. -/
  | armRefetch (delay : Nat)
  /-- Stop the refetch timer. -/
  | cancelRefetch
  /-- Tell the user what went wrong. -/
  | notice (message : String)
deriving DecidableEq

/-- The view after an event. -/
structure Step where
  view : View
  effects : List Effect
  log : List Log.Entry

/-- Milliseconds from the end of one fetch to the start of the next. -/
def refetchDelay : Nat := 30 * 1000

/-- The view as it starts; a window is at least a second. -/
def ofSettings (s : ViewSettings) : View :=
  ⟨.start s.root s.metric? s.host? s.interface?, max s.window 1, s.transform, .start, [], 0, none⟩

/-! ## What is shown -/

/-- The window as the user sees it. -/
def windowLabel (v : View) : String := Window.label v.window

/-- The ends of the time axis: the zoom, else the data, else what was asked for. -/
def bounds? (v : View) : Option AxisRange :=
  match v.zoom.applied? with
  | some r => some r
  | none =>
      match ChartSeries.extent? v.series with
      | some r => some (AxisRange.between r.min r.max)
      | none => v.requested?

/-- The upper end of the value axis, at least one. -/
def top (v : View) : Double := ((ChartSeries.top? v.series).getD Double.zero).max Double.one

/-! ## Fetching -/

/-- The start of the window that ends now, and not before 1970. -/
def windowStart (window : Int) (now : UInt64) : UInt64 :=
  (now.toNat - (Window.millis window).toNat).toUInt64

/-- The query for a variable in the current window. -/
def query (v : View) (metric host interface : String) (now : UInt64) : GetRequest :=
  { GetRequest.ofName (Cascade.variableOf metric host interface) with
    minTimestamp? := some (windowStart v.window now)
    mutations := [⟨v.transform, none, none⟩]
    maxVariables? := some defaultMaxVariables }

/-- Issue a query, unless something is not chosen. -/
def startGet (v : View) (now : UInt64) : View × Option Effect × List Log.Entry :=
  match v.cascade.complete? with
  | none => (v, none, [⟨.debug, "selection incomplete, not fetching"⟩])
  | some (metric, host, interface) =>
      let request := v.query metric host interface now
      let issued := v.getsIssued + 1
      let span := AxisRange.between (Double.ofNat (windowStart v.window now).toNat)
        (Double.ofNat now.toNat)
      ({ v with getsIssued := issued, requested? := some span }, some (.get ⟨issued, request⟩),
        [⟨.debug, "get #" ++ toString issued ++ " " ++ request.name ++ " " ++ v.transform.name⟩])

/-- Stop the timer and issue a query, unless something is not chosen. -/
def fetch (v : View) (now : UInt64) : Step :=
  match v.startGet now with
  | (v, some get, log) => ⟨v, [.cancelRefetch, get], log⟩
  | (v, none, log) => ⟨v, [], log⟩

/-- Draw, then fetch. -/
def renderAndFetch (v : View) (now : UInt64) : Step :=
  let step := v.fetch now
  { step with effects := .render :: step.effects }

/-- Set the window: the zoom is dropped, and the data is fetched again if everything is chosen. -/
def setWindow (v : View) (seconds : Int) (now : UInt64) : Step :=
  let change : Log.Entry :=
    ⟨.info, "window " ++ toString v.window ++ " -> " ++ toString seconds⟩
  let (v, get, log) := { v with window := seconds, zoom := v.zoom.reset }.startGet now
  ⟨v, [.cancelRefetch, .render] ++ get.toList, change :: log⟩

/-- Take the outcome of a query; only that of the latest one counts. -/
def takeGet (v : View) (generation : Nat) (result : Except StoreError GetResponse) : Step :=
  let number := "get #" ++ toString generation
  if generation ≠ v.getsIssued then
    ⟨v, [], [⟨.debug, "dropping stale " ++ number ++ " (latest #" ++ toString v.getsIssued
      ++ ")"⟩]⟩
  else
    match result with
    | .ok response =>
        let series := response.streams.map ChartSeries.ofStream
        ⟨{ v with series }, [.render, .armRefetch refetchDelay],
          [⟨.debug, number ++ " returned " ++ toString series.length ++ " series"⟩]⟩
    | .error e =>
        ⟨v, [.notice e.userMessage, .armRefetch refetchDelay],
          [⟨.warn, number ++ " failed: " ++ e.message⟩]⟩

/-! ## Events -/

/-- Draw after a choice of metric or host, and send the listing it led to. -/
def afterChoice (v : View) (chosen : Cascade × Option ListCall) : Step :=
  ⟨{ v with cascade := chosen.1 }, .render :: (chosen.2.map Effect.list).toList, []⟩

/-- Take the outcome of a listing. -/
def takeList (v : View) (level : Level) (generation : Nat)
    (result : Except StoreError ListResponse) (now : UInt64) : Step :=
  let applied := v.cascade.apply level generation result
  let v := { v with cascade := applied.cascade }
  match applied.outcome with
  | .stale => ⟨v, [], applied.log⟩
  | .failed message => ⟨v, [.notice message], applied.log⟩
  | .topReady call => ⟨v, [.render, .list call], applied.log⟩
  | .incomplete => ⟨v, [.render], applied.log⟩
  | .ready =>
      let step := v.renderAndFetch now
      { step with log := applied.log ++ step.log }

/-- What is said when the window cannot be doubled. -/
def longestWindow : String := "window is already at its maximum"

/-- Handle one event at a time of the clock, milliseconds since 1970. -/
def handle (v : View) (event : Event) (now : UInt64) : Step :=
  match event with
  | .start =>
      let (cascade, call) := v.cascade.refreshTop
      ⟨{ v with cascade }, [.list call], []⟩
  | .metricSelected value => v.afterChoice (v.cascade.chooseMetric value)
  | .hostSelected value => v.afterChoice (v.cascade.chooseHost value)
  | .interfaceSelected value =>
      match v.cascade.chooseInterface? value with
      | none => ⟨v, [], [⟨.debug, "ignoring unknown interface " ++ value⟩]⟩
      | some cascade => { v with cascade }.renderAndFetch now
  | .transformSelected transform => { v with transform }.renderAndFetch now
  | .windowDoubled =>
      let doubled := 2 * Window.displayed v.window
      if doubled ≤ Duration.limit then v.setWindow doubled now
      else ⟨v, [.notice longestWindow], []⟩
  | .windowHalved => v.setWindow (max (Window.displayed v.window / 2) 1) now
  | .windowEntered text =>
      match Window.ofText (Text.trim text) with
      | .error refusal => ⟨v, [.notice refusal.message], []⟩
      | .ok accepted =>
          let step := v.setWindow accepted.seconds now
          { step with log := accepted.log ++ step.log }
  | .zoomSelected range => ⟨{ v with zoom := v.zoom.select range }, [.render], []⟩
  | .zoomOut => ⟨{ v with zoom := v.zoom.out }, [.render], []⟩
  | .refetch => v.fetch now
  | .listCompleted level generation result => v.takeList level generation result now
  | .getCompleted generation result => v.takeGet generation result

/-- A reply of the store as an event. -/
def Event.ofReply : StoreReply → Event
  | .list level generation result => .listCompleted level generation result
  | .get generation result => .getCompleted generation result

end View

end Meterboard
