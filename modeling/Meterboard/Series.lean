import Meterboard.AxisRange
import Meterboard.Message

/-!
# Series of a chart

* `ChartSeries`, `ChartSeries.ofStream` — the points of one line, taken from a stream.
* `ChartSeries.extent?` — the first and the last time over all lines.
* `ChartSeries.top?` — the largest value over all lines.
* `ChartSeries.visible` — the points of a line that lie in a range.
-/

namespace Meterboard

/-- One line of the chart: a label, and pairs of time and value in the order the store sent them. -/
structure ChartSeries where
  label : String
  points : List (Double × Double)
deriving DecidableEq

namespace ChartSeries

/-- The point of a sample; a sample without a number has none. -/
def point? (s : Sample) : Option (Double × Double) :=
  s.double?.map fun x => (Double.ofNat s.timestamp.toNat, x)

/-- The line of a stream, labelled with its variable. -/
def ofStream (s : MetricStream) : ChartSeries := ⟨s.name, s.samples.filterMap point?⟩

/-- The times of all points, line by line. -/
def times (lines : List ChartSeries) : List Double :=
  lines.flatMap fun l => l.points.map (·.1)

/-- The values of all points, line by line. -/
def values (lines : List ChartSeries) : List Double :=
  lines.flatMap fun l => l.points.map (·.2)

/-- The smallest and the largest time of all points. -/
def extent? (lines : List ChartSeries) : Option AxisRange :=
  match times lines with
  | [] => none
  | t :: ts => some (ts.foldl (fun r u => ⟨r.min.min u, r.max.max u⟩) ⟨t, t⟩)

/-- The largest value of all points, NaNs aside. -/
def top? (lines : List ChartSeries) : Option Double :=
  match (values lines).filter (!·.isNaN) with
  | [] => none
  | x :: xs => some (xs.foldl Double.max x)

/-- The points of a line that lie in a range. -/
def visible (r : AxisRange) (l : ChartSeries) : List (Double × Double) :=
  l.points.filter fun p => r.holds p.1

open Wire (Value) in
/-- A line as a record: the label, and each point as a pair. -/
def toValue (l : ChartSeries) : Value :=
  .record
    [("label", .text l.label),
     ("data", .list (l.points.map fun p => .list [.double p.1, .double p.2]))]

end ChartSeries

end Meterboard
