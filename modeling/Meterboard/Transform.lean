/-!
# Value transforms

Before it returns a stream the store may turn its raw samples into averages, rates and the like.

* `Transform` — the eight transforms, in the order of their wire numbers.
* `Transform.name`, `Transform.named?` — their names; a settings file may write them in any case.
* `Transform.next`, `Transform.previous` — the cycle that the board's selector steps through.
-/

namespace Meterboard

/-- How raw samples are turned into the values that are returned. -/
inductive Transform where
  /-- Raw samples. -/
  | raw
  /-- Mean over each interval. -/
  | average
  /-- Maximum over each interval. -/
  | max
  /-- Minimum over each interval. -/
  | min
  /-- Rate per second of a counter, negative steps dropped. -/
  | rate
  /-- Rate per second of a counter, negative steps kept. -/
  | rateSigned
  /-- Difference between consecutive samples. -/
  | delta
  /-- Only the most recent sample. -/
  | latest
deriving DecidableEq, Repr

namespace Transform

/-- Unless told otherwise the board shows counters as rates. -/
instance : Inhabited Transform := ⟨rate⟩

/-- Every transform, in the order of the wire numbers. -/
def all : List Transform := [raw, average, max, min, rate, rateSigned, delta, latest]

/-- The lower-case name, as messages and settings write it. -/
def name : Transform → String
  | raw => "none"
  | average => "average"
  | max => "max"
  | min => "min"
  | rate => "rate"
  | rateSigned => "rate_signed"
  | delta => "delta"
  | latest => "latest"

/-- The number the store knows a transform by. -/
def number : Transform → Nat
  | raw => 0
  | average => 1
  | max => 2
  | min => 3
  | rate => 4
  | rateSigned => 5
  | delta => 6
  | latest => 7

/-- The next transform in wire order, with the first after the last. -/
def next : Transform → Transform
  | raw => average
  | average => max
  | max => min
  | min => rate
  | rate => rateSigned
  | rateSigned => delta
  | delta => latest
  | latest => raw

/-- The transform before this one in wire order, with the last before the first. -/
def previous : Transform → Transform
  | raw => latest
  | average => raw
  | max => average
  | min => max
  | rate => min
  | rateSigned => rate
  | delta => rateSigned
  | latest => delta

/-- The transform of exactly this name. -/
def ofName? (s : String) : Option Transform := all.find? (·.name == s)

/-- The transform of this name, the case of ASCII letters aside. -/
def named? (s : String) : Option Transform :=
  all.find? fun t => t.name.toList == s.toList.map Char.toLower

/-- What is said of a text that names no transform. -/
def unknownName : String := "unknown sample type"

theorem previous_next (t : Transform) : t.next.previous = t := by cases t <;> rfl

theorem next_previous (t : Transform) : t.previous.next = t := by cases t <;> rfl

/-- A transform is found by its own name. -/
theorem ofName?_name (t : Transform) : ofName? t.name = some t := by cases t <;> decide

end Transform

end Meterboard
