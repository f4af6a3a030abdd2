import Meterboard.Proofs.AxisRange
import Meterboard.Proofs.Board.Turn

/-!
# Dragging over the plot

A drag over the plot selects the range of time between its ends.  Whether it is more than a click
is decided by the columns of the screen, and the times are those of the nearest columns of the
plot.  So a drag can be long on the screen and go nowhere in the plot.

**Columns.**  `Area.Leaves` — a way that starts on an edge of the plot and leads out over it; such a
way ends at the column it started from (`Area.nearest_eq_iff`).  `timeAt_lt_or_gt` — different
columns of the plot have different times, where the range is long enough for doubles.

**A drag.**  `Board.drag` presses, moves and releases.  `foldl_dragged` is an induction on the
moves: whatever they are, the drag starts where it was pressed.  `drag_view` — what the release
does to the view.  `drag_selects` — a range with a length is selected **if and only if** the drag
does not leave the plot over the edge it started from.
-/

namespace Meterboard

/-! ## Columns -/

namespace Area

/-- The way from one column to another starts on an edge of the rectangle and leads out over it. -/
def Leaves (a : Area) (start stop : Nat) : Prop :=
  (start = a.x ∧ stop < a.x) ∨ (start + 1 = a.right ∧ a.right ≤ stop)

instance (a : Area) (start stop : Nat) : Decidable (a.Leaves start stop) :=
  inferInstanceAs (Decidable (_ ∨ _))

lemma holds_iff {a : Area} {column row : Nat} : a.holds column row = true ↔
    (a.x ≤ column ∧ column < a.right) ∧ a.y ≤ row ∧ row < a.bottom := by
  simp [holds, and_assoc]

lemma nearest_of_mem {a : Area} {column : Nat} (h : a.x ≤ column ∧ column < a.right) :
    a.nearest column = column := by
  unfold nearest
  omega

/-- A way leads to the column it started from if it goes nowhere, or out over the edge. -/
lemma nearest_eq_iff {a : Area} {start stop : Nat} (h : a.x ≤ start ∧ start < a.right) :
    a.nearest stop = start ↔ stop = start ∨ a.Leaves start stop := by
  unfold nearest Leaves
  omega

lemma nearest_bounds {a : Area} (h : 0 < a.width) (column : Nat) :
    a.x ≤ a.nearest column ∧ a.nearest column - a.x ≤ a.width - 1 := by
  unfold nearest right
  omega

end Area

namespace Board

lemma timeAt_eq (plot : Area) (range : AxisRange) (column : Nat) :
    timeAt plot range column = range.step (plot.nearest column - plot.x) (plot.width - 1) := rfl

/-- What is clamped to the same column has the same time. -/
lemma timeAt_congr {plot : Area} {range : AxisRange} {column column' : Nat}
    (h : plot.nearest column = plot.nearest column') :
    timeAt plot range column = timeAt plot range column' := by
  rw [timeAt_eq, timeAt_eq, h]

/-- What is clamped to different columns has different times, where the range is long enough. -/
lemma timeAt_lt_or_gt {plot : Area} {range : AxisRange} {n : Int} {first last : ℚ}
    (h : range.Resolves (plot.width - 1) n first last) (hwidth : 2 ≤ plot.width)
    (hlimit : plot.width ≤ Area.limit) {column column' : Nat}
    (hne : plot.nearest column ≠ plot.nearest column') :
    (timeAt plot range column).lt (timeAt plot range column') = true ∨
      (timeAt plot range column').lt (timeAt plot range column) = true := by
  have hsteps : plot.width - 1 < 2 ^ 53 := by
    unfold Area.limit at hlimit
    omega
  obtain ⟨hleft, hright⟩ := plot.nearest_bounds (by omega) column
  obtain ⟨hleft', hright'⟩ := plot.nearest_bounds (by omega) column'
  rw [timeAt_eq, timeAt_eq]
  rcases Nat.lt_or_gt_of_ne hne with hlt | hgt
  · exact .inl (AxisRange.step_lt_step h (by omega) hright' hsteps)
  · exact .inr (AxisRange.step_lt_step h (by omega) hright hsteps)

/-! ## Dragging -/

variable {σ : Type}

/-- A cell of the screen that the mouse is over, and the time. -/
structure Touch where
  column : Nat
  row : Nat
  now : Clock

variable [StoreSource σ]

/-- The left button is pressed in a cell, the mouse moves over others, and the button is let go. -/
def drag (b : Board σ) (press : Touch) (path : List Touch) (release : Touch) : Board σ :=
  let pressed := b.mouse ⟨.pressed .left, press.column, press.row⟩ press.now
  let moved := path.foldl (fun b t => b.mouse ⟨.dragged .left, t.column, t.row⟩ t.now) pressed
  moved.mouse ⟨.released .left, release.column, release.row⟩ release.now

/-- Moving the mouse changes where the drag is, and not where it started. -/
lemma foldl_dragged (path : List Touch) (b : Board σ) (start current : Nat) :
    ∃ current', path.foldl (fun b t => b.mouse ⟨.dragged .left, t.column, t.row⟩ t.now)
        { b with drag? := some ⟨start, current⟩, changed := true }
      = { b with drag? := some ⟨start, current'⟩, changed := true } := by
  induction path generalizing current with
  | nil => exact ⟨current, rfl⟩
  | cons t path ih => exact ih t.column

/-- A drag that starts in the plot is a click, or selects what lies between its ends. -/
lemma drag_view {b : Board σ} {plot : Area} {range : AxisRange} (hplot : b.plot? = some plot)
    (hrange : b.view.bounds? = some range) (hwidth : 2 ≤ plot.width) {press : Touch}
    (hpress : plot.holds press.column press.row = true) (path : List Touch) (release : Touch) :
    (b.drag press path release).view
      = if distance press.column release.column < shortestDrag then b.view
        else { b.view with zoom := b.view.zoom.select (.between
          (timeAt plot range press.column) (timeAt plot range release.column)) } := by
  have hpressed : b.mouse ⟨.pressed .left, press.column, press.row⟩ press.now
      = { b with drag? := some ⟨press.column, press.column⟩, changed := true } := by
    have hin : b.inPlot press.column press.row = true := by
      rw [inPlot, hplot]
      exact hpress
    exact if_pos hin
  obtain ⟨current, hmoved⟩ := foldl_dragged path b press.column press.column
  have htime : ∀ column, (if plot.width < 2 then none else some (timeAt plot range column))
      = some (timeAt plot range column) := fun column => if_neg (not_lt.2 hwidth)
  unfold drag
  dsimp only
  rw [hpressed, hmoved]
  simp only [mouse, endDrag, columnTime?, hplot, hrange, htime]
  split
  · rfl
  · rw [tell, carryOutAll_view]
    rfl

/-- **What a drag selects**, whatever the plot, the times on its axis and the way of the mouse.

* Over less than two columns nothing is selected, and the view stays as it is.
* Any other drag selects the range between the times of its ends.  That has a length just where one
  of the times is earlier.
* A drag from an edge of the plot out over that edge selects a range without a length.
* Where a column is long enough for doubles to tell it from the next, every other drag selects a
  range that has a length. -/
theorem drag_selects {b : Board σ} {plot : Area} {range : AxisRange} (hplot : b.plot? = some plot)
    (hrange : b.view.bounds? = some range) (hwidth : 2 ≤ plot.width) {press : Touch}
    (hpress : plot.holds press.column press.row = true) (path : List Touch) (release : Touch) :
    let view := (b.drag press path release).view
    let selected : AxisRange :=
      .between (timeAt plot range press.column) (timeAt plot range release.column)
    (distance press.column release.column < shortestDrag → view = b.view) ∧
    (shortestDrag ≤ distance press.column release.column →
      view = { b.view with zoom := b.view.zoom.select selected } ∧
      (selected.min.lt selected.max = true ↔
        (timeAt plot range press.column).lt (timeAt plot range release.column) = true ∨
          (timeAt plot range release.column).lt (timeAt plot range press.column) = true) ∧
      (plot.Leaves press.column release.column → selected.min.lt selected.max = false) ∧
      (plot.width ≤ Area.limit →
        ∀ n first last, range.Resolves (plot.width - 1) n first last →
          (selected.min.lt selected.max = true ↔
            ¬ plot.Leaves press.column release.column))) := by
  intro view selected
  have hview := drag_view hplot hrange hwidth hpress path release
  have hcolumn := (Area.holds_iff.1 hpress).1
  have hlength := AxisRange.between_lt_iff (timeAt plot range press.column)
    (timeAt plot range release.column)
  have hedge : plot.Leaves press.column release.column →
      selected.min.lt selected.max = false := by
    intro hleaves
    have hsame : plot.nearest release.column = plot.nearest press.column := by
      rw [Area.nearest_of_mem hcolumn]
      exact (Area.nearest_eq_iff hcolumn).2 (.inr hleaves)
    simp only [selected, timeAt_congr hsame, AxisRange.between_self]
  refine ⟨fun hshort => hview.trans (if_pos hshort), fun hlong => ?_⟩
  refine ⟨hview.trans (if_neg (not_lt.2 hlong)), hlength, hedge, fun hlimit n first last h => ?_⟩
  constructor
  · intro hsome hleaves
    rw [hedge hleaves] at hsome
    cases hsome
  · intro hstays
    have hmoved : plot.nearest press.column ≠ plot.nearest release.column := by
      intro hsame
      rw [Area.nearest_of_mem hcolumn] at hsame
      rcases (Area.nearest_eq_iff hcolumn).1 hsame.symm with heq | hleaves
      · rw [heq] at hlong
        simp [distance, shortestDrag] at hlong
      · exact hstays hleaves
    exact hlength.2 (timeAt_lt_or_gt h hwidth hlimit hmoved)

/-- The first and the last time of a chart, a hundred seconds apart. -/
def spread : AxisRange := ⟨⟨0⟩, ⟨0x40F86A0000000000⟩⟩

/-- A plot that is 101 columns wide. -/
def wide : Area := ⟨10, 2, 101, 20⟩

/-- A board with a chart of those times on that plot. -/
def charted : Board Courier :=
  { Board.of (Courier.toStore "") default .dark with
    view := { View.ofSettings default with
      series := [⟨"m", [(spread.min, .zero), (spread.max, .one)]⟩] }
    plot? := some wide }

/-- A cell in the fifth row, at the beginning of time. -/
def Touch.of (column : Nat) : Touch := ⟨column, 5, ⟨0, 0⟩⟩

lemma charted_bounds? : charted.view.bounds? = some spread := by decide

lemma value?_spread : spread.min.value? = some 0 ∧ spread.max.value? = some 100000 := by
  have hsignificand : spread.max.significand = 100000 * 2 ^ 36 := by decide
  have hexponent : spread.max.exponent = 1038 := by decide
  constructor
  · refine Double.value?_eq_some_iff.2 ⟨by decide, ?_⟩
    rw [show spread.min.significand = 0 by decide, show spread.min.isNegative = false by decide]
    simp [Double.signed]
  · refine Double.value?_eq_some_iff.2 ⟨by decide, ?_⟩
    rw [hsignificand, hexponent, show spread.max.isNegative = false by decide]
    norm_num [Double.signed]

lemma resolves_spread : spread.Resolves 100 17 0 100000 where
  min := value?_spread.1
  max := value?_spread.2
  min_le := by norm_num
  max_le := by norm_num
  small := by decide
  large := by decide
  long := by norm_num

/-- From within the plot out over its edge a range is selected that has a length. -/
theorem drag_selects_clamped :
    ∃ r, (charted.drag (.of 50) [.of 130] (.of 130)).view.zoom.applied? = some r ∧
      r.min.lt r.max = true := by
  have hpress : wide.holds (Touch.of 50).column (Touch.of 50).row = true := by decide
  obtain ⟨-, hlong⟩ := drag_selects (b := charted) rfl charted_bounds? (by decide) hpress
    [.of 130] (.of 130)
  obtain ⟨hview, -, -, hlength⟩ := hlong (by decide)
  refine ⟨_, by rw [hview]; rfl, ?_⟩
  exact (hlength (by decide) _ _ _ resolves_spread).2 (by decide)

/-- From the edge out over it a range is selected that has no length. -/
theorem drag_over_edge :
    spread.min.lt spread.max = true ∧ charted.view.bounds? = some spread ∧
    charted.plot? = some wide ∧ 2 ≤ wide.width ∧ charted.inPlot 110 5 = true ∧
    ∃ r, (charted.drag (.of 110) [.of 111] (.of 112)).view.zoom.applied? = some r ∧
      r.min.lt r.max = false := by
  have hpress : wide.holds (Touch.of 110).column (Touch.of 110).row = true := by decide
  have hview := drag_view (b := charted) rfl charted_bounds? (by decide) hpress
    [.of 111] (.of 112)
  refine ⟨by decide, charted_bounds?, rfl, by decide, by decide, _, by rw [hview]; rfl, ?_⟩
  have hsame : timeAt wide spread 112 = timeAt wide spread 110 :=
    timeAt_congr (by decide)
  simp only [Touch.of, hsame, AxisRange.between_self]

end Board

end Meterboard
