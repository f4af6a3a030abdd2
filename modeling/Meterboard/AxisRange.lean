import Meterboard.Calendar
import Meterboard.Double

/-!
# Ranges of the time axis

* `AxisRange`, `AxisRange.between` — a stretch of the time axis from two ends in either order.
* `AxisRange.labels` — the times written below a chart.
* `Zoom` — the range that is applied to a chart, over a stack of those applied before.
-/

namespace Meterboard

/-- A stretch of the time axis, in milliseconds since 1970. -/
structure AxisRange where
  min : Double
  max : Double
deriving DecidableEq

namespace AxisRange

/-- The range between two ends given in either order; a NaN end gives way to the other. -/
def between (a b : Double) : AxisRange := ⟨a.min b, a.max b⟩

/-- The length of the range. -/
def width (r : AxisRange) : Double := r.max.sub r.min

/-- A time lies in the range, ends included. -/
def holds (r : AxisRange) (t : Double) : Bool := r.min.le t && t.le r.max

/-- Two. -/
def two : Double := Double.ofNat 2

/-- The middle of the range. -/
def middle (r : AxisRange) : Double := r.min.add (r.width.div two)

/-- A time on the axis as text, in local time; nothing for a year that cannot be shown. -/
def timeText (zone : Calendar.Zone) (dated : Bool) (t : Double) : String :=
  match zone.moment? t.truncate with
  | some m => if dated then m.dayAndTime else m.clock
  | none => ""

/-- The times at the start, in the middle and at the end.  Beyond one day they show the date. -/
def labels (zone : Calendar.Zone) (r : AxisRange) : List String :=
  let dated := (Double.ofRatio false Calendar.dayMillis.toNat 1).lt r.width
  [r.min, r.middle, r.max].map (timeText zone dated)

end AxisRange

/-! ## Zoom -/

/-- The range a chart is zoomed to, if any, and the ranges to step back to, the latest first.  The
stack grows only when a range is selected and shrinks only when zooming out. -/
structure Zoom where
  applied? : Option AxisRange
  stack : List AxisRange
deriving DecidableEq

namespace Zoom

/-- Not zoomed. -/
def start : Zoom := ⟨none, []⟩

/-- Apply a selected range and remember the one before it. -/
def select (z : Zoom) (r : AxisRange) : Zoom := ⟨some r, z.applied?.toList ++ z.stack⟩

/-- Step back to the range before, or to none. -/
def out (z : Zoom) : Zoom := ⟨z.stack.head?, z.stack.tail⟩

/-- Apply no range, as when the window changes; the stack stays. -/
def reset (z : Zoom) : Zoom := ⟨none, z.stack⟩

/-- How many ranges there are to step back to. -/
def depth (z : Zoom) : Nat := z.stack.length

/-- Zooming out would change something. -/
def isZoomed (z : Zoom) : Bool := z.applied?.isSome || !z.stack.isEmpty

end Zoom

end Meterboard
