import Meterboard.Double.Decimal
import Meterboard.Screen.Row

/-!
# The chart

The chart takes the rows between the selectors and the status bar.  Its frame carries a title;
inside lie the labels of both axes and the plot.

* `Rate.text` — a value as its axis shows it: counters count octets, and the axis shows bits per
  second in steps of 1024.
* `Chart`, `Board.chart?` — everything about the chart but the pixels of its curves.
* `Board.chartTitle`, `Board.waitingText` — the title, and what is said while there is no chart.
-/

namespace Meterboard

/-! ## Bit rates -/

namespace Rate

/-- The step from one unit to the next. -/
def step : Double := Double.ofNat 1024

/-- The units above plain bits per second. -/
def larger : List String := ["Kbps", "Mbps", "Gbps"]

/-- Rounded to one place. -/
def toTenth (x : Double) : Double := ((x.mul (Double.ofNat 10)).round).div (Double.ofNat 10)

/-- A number in the first unit that it does not fill, the last unit taking all the rest. -/
def scaled (x : Double) (unit : String) : List String → String
  | [] => (toTenth x).text Double.plain ++ unit
  | above :: units =>
      if x.lt step then (toTenth x).text Double.plain ++ unit
      else scaled (x.div step) above units

/-- Octets per second as a bit rate. -/
def text (octets : Double) : String :=
  scaled (octets.mul (Double.ofNat 8)) "bps" larger

end Rate

/-! ## The chart -/

/-- A curve of the chart. -/
structure Curve where
  label : String
  color : Color
  /-- The points that lie in the range of the time axis. -/
  points : List (Double × Double)

/-- What is drawn of a chart. -/
structure Chart where
  title : Screen.Row
  /-- The labels of the value axis, from top to bottom. -/
  valueLabels : List String
  /-- The labels of the time axis, from left to right. -/
  timeLabels : List String
  /-- Where the curves lie. -/
  plot : Area
  curves : List Curve
  /-- The first column that a drag has selected, and the column after the last one. -/
  band? : Option (Nat × Nat)

namespace Board

open Screen (Span Row)

variable {σ : Type}

/-- What stands for a metric that is missing. -/
def noMetric : String := "(no metric)"

/-- The title: metric, host and interface as far as they are chosen, and whether the chart is
zoomed. -/
def chartTitle (b : Board σ) : String :=
  let c := b.view.cascade
  let parts := [c.metric.current?.getD noMetric] ++ c.host.current?.toList
    ++ c.interface.current?.toList
  let zoom := if b.view.zoom.applied?.isSome then " [zoomed]" else ""
  " " ++ String.intercalate " · " parts ++ zoom ++ " "

/-- What is said while there is no chart. -/
def waitingText (b : Board σ) : String :=
  if b.view.cascade.complete?.isNone then "  Waiting for selectors…" else "  Waiting for data…"

/-- The value axis reaches a tenth above the largest value. -/
def headroom : Double := Double.ofRatio false 11 10

/-- The upper end of the value axis. -/
def valueTop (v : View) : Double := v.top.mul headroom

/-- The values that are labelled, from top to bottom. -/
def labelledValues (v : View) : List Double :=
  [valueTop v, (valueTop v).div AxisRange.two, Double.zero]

/-- The plot in the inside of the frame: value labels and their axis lie to the left, time labels
and theirs below. -/
def plotWithin (inside : Area) (labelWidth : Nat) : Area :=
  ⟨inside.x + labelWidth + 1, inside.y, inside.width - (labelWidth + 1), inside.height - 2⟩

/-- The columns of the plot that a drag has selected. -/
def band? (plot : Area) (drag : Drag) : Option (Nat × Nat) :=
  let left := max (min drag.start drag.current) plot.x
  let right := min (max drag.start drag.current) plot.right
  if left < right then some (left, right) else none

/-- The curves, each in its colour. -/
def curves (b : Board σ) (range : AxisRange) : List Curve :=
  b.view.series.mapIdx fun i line => ⟨line.label, b.theme.seriesColor i, line.visible range⟩

/-- The chart in an area of the screen, if there are series to chart, its times in those of a time
zone.  Labels take no more than a third of the width. -/
def chart? (b : Board σ) (zone : Calendar.Zone) (area : Area) : Option Chart :=
  match b.view.bounds? with
  | some range =>
      if b.view.series.isEmpty then none
      else
        let inside := area.inner
        let labels := (labelledValues b.view).map Rate.text
        let labelWidth := (labels.map String.length).foldl max 0
        let plot := plotWithin inside labelWidth
        some
          { title := Screen.Rows.edge area.width (.of b.theme.border) '╭' '╮'
              (Span.cells ⟨b.chartTitle, b.theme.title⟩)
            valueLabels := labels.map fun l => String.ofList (l.toList.take (inside.width / 3))
            timeLabels := range.labels zone
            plot
            curves := b.curves range
            band? := b.drag?.bind (band? plot) }
  | none => none

/-- The frame that is drawn while there is no chart. -/
def waitingRows (b : Board σ) (area : Area) : List Row :=
  let ink := Ink.of b.theme.border
  Screen.Rows.framed area.width area.height ink ⟨b.chartTitle, b.theme.title⟩
    [Span.cells ⟨b.waitingText, ink⟩]

end Board

end Meterboard
