import Mathlib.Logic.Function.Iterate
import Meterboard.Proofs.Run
import Meterboard.View

/-!
# Selecting a range and stepping back

Selecting a range remembers the one before it, and zooming out takes the latest range that is
remembered.  The two undo each other as long as the range that is applied is the one that selecting
remembers.  A change of the window comes in between on purpose: it takes the applied range away and
keeps what is remembered, so that zooming out leads back to the ranges before it.

* `Zoom.Op`, `Zoom.zooms` — what is done to a zoom, and all that can happen to one.
* `reset_of_run` — a range is missing over remembered ones only just after a reset.
* `out_select_eq_self_iff` — zooming out takes a selected range back **if and only if** a range was
  applied or nothing was remembered.
* `Zoom.trail`, `Zoom.ofTrail` — a zoom as the list of all its ranges.  Selecting adds to its front,
  and zooming out takes from there.
* `unwinds` — many ranges are left in the order opposite to that of their selection.
-/

namespace Meterboard

namespace Zoom

/-! ## Operations -/

/-- What is done to a zoom. -/
inductive Op where
  | select (range : AxisRange)
  | out
  /-- The window changes. -/
  | reset

/-- Do something to a zoom. -/
def perform (z : Zoom) : Op → Zoom
  | .select range => z.select range
  | .out => z.out
  | .reset => z.reset

/-- All that can happen to a zoom. -/
def zooms : System Zoom Op := ⟨start, fun _ _ => True, perform⟩

/-! ## Undoing -/

/-- What selecting a range and zooming out leaves: the applied range joins those remembered, and the
latest of them all is applied. -/
lemma out_select (z : Zoom) (r : AxisRange) :
    (z.select r).out
      = ⟨(z.applied?.toList ++ z.stack).head?, (z.applied?.toList ++ z.stack).tail⟩ := rfl

lemma out_select_of_applied {z : Zoom} (h : z.applied?.isSome) (r : AxisRange) :
    (z.select r).out = z := by
  obtain ⟨applied?, stack⟩ := z
  obtain ⟨range, rfl⟩ := Option.isSome_iff_exists.1 h
  rfl

/-- Where no range is applied, a selected range leaves no trace: zooming out does what it would have
done without it. -/
lemma out_select_of_none {z : Zoom} (h : z.applied? = none) (r : AxisRange) :
    (z.select r).out = z.out := by
  rw [out_select, h]
  rfl

/-- Without a range, zooming out changes a zoom that remembers some. -/
lemma out_eq_self_iff {z : Zoom} (h : z.applied? = none) : z.out = z ↔ z.stack = [] := by
  obtain ⟨applied?, stack⟩ := z
  obtain rfl : applied? = none := h
  cases stack with
  | nil => exact iff_of_true rfl rfl
  | cons range rest => exact iff_of_false (fun hsame => by cases hsame) (by simp)

/-- A range is missing over remembered ones only just after a reset: selecting applies a range, and
zooming out applies one as long as there is one. -/
lemma reset_of_run {history : List (Zoom × Op)} {z : Zoom} (run : Run zooms history z) :
    z.applied? = none ∧ z.stack ≠ [] ↔
      z.stack ≠ [] ∧ ∃ before, history.getLast? = some (before, .reset) := by
  cases run with
  | start => simp [zooms, start]
  | @step history before op _ _ =>
      cases op with
      | select range => simp [zooms, perform, select]
      | out =>
          refine iff_of_false ?_ (by simp)
          rintro ⟨hnone, hstack⟩
          have hbefore : before.stack = [] := List.head?_eq_none_iff.1 hnone
          exact hstack (by simp [zooms, perform, out, hbefore])
      | reset => simp [zooms, perform, reset]

/-- Zooming out takes a selected range back if a range was applied, or nothing was remembered. -/
lemma out_select_eq_self_iff (z : Zoom) (r : AxisRange) :
    (z.select r).out = z ↔ z.applied?.isSome ∨ z.stack = [] := by
  cases happlied : z.applied? with
  | none => simpa [out_select_of_none happlied] using out_eq_self_iff happlied
  | some range =>
      have hsome : z.applied?.isSome := by simp [happlied]
      exact iff_of_true (out_select_of_applied hsome r) (.inl rfl)

lemma out_select_ne_self_iff (z : Zoom) (r : AxisRange) :
    (z.select r).out ≠ z ↔ z.applied? = none ∧ z.stack ≠ [] := by
  rw [ne_eq, out_select_eq_self_iff, not_or, Option.not_isSome_iff_eq_none]

/-- A stretch of a second. -/
def second (n : Nat) : AxisRange := ⟨.ofNat (1000 * n), .ofNat (1000 * (n + 1))⟩

/-- Two ranges are selected and the window changes. -/
def narrowed : List Op := [.select (second 0), .select (second 1), .reset]

/-! ## Stepping back more than once -/

/-- The zoom with these ranges, the latest first: the first one is applied, the others are
remembered. -/
def ofTrail (trail : List AxisRange) : Zoom := ⟨trail.head?, trail.tail⟩

/-- All ranges of a zoom, the latest first. -/
def trail (z : Zoom) : List AxisRange := z.applied?.toList ++ z.stack

/-- A selected range comes before all the others. -/
lemma select_eq (z : Zoom) (r : AxisRange) : z.select r = ofTrail (r :: z.trail) := rfl

lemma out_eq (z : Zoom) : z.out = ofTrail z.stack := rfl

lemma out_ofTrail (trail : List AxisRange) : (ofTrail trail).out = ofTrail trail.tail := rfl

lemma trail_ofTrail (trail : List AxisRange) : (ofTrail trail).trail = trail := by
  cases trail <;> rfl

/-- A zoom is given by its ranges, unless one is missing over remembered ones. -/
lemma ofTrail_trail_iff (z : Zoom) :
    ofTrail z.trail = z ↔ z.applied?.isSome ∨ z.stack = [] := by
  obtain ⟨applied?, stack⟩ := z
  cases applied? with
  | some range => exact iff_of_true rfl (.inl rfl)
  | none =>
      cases stack with
      | nil => exact iff_of_true rfl (.inr rfl)
      | cons range rest => exact iff_of_false (fun h => by cases h) (by simp)

/-- Selecting ranges puts them before all the others, the last one first. -/
lemma foldl_select {rs : List AxisRange} (hrs : rs ≠ []) (z : Zoom) :
    rs.foldl select z = ofTrail (rs.reverse ++ z.trail) := by
  induction rs generalizing z with
  | nil => exact absurd rfl hrs
  | cons r rs ih =>
      cases rs with
      | nil => rfl
      | cons s rest =>
          rw [List.foldl_cons, ih (List.cons_ne_nil s rest), select_eq, trail_ofTrail,
            List.reverse_cons (a := r), List.append_assoc, List.singleton_append]

/-- The range that was selected last is applied. -/
lemma applied?_foldl_select {rs : List AxisRange} (hrs : rs ≠ []) (z : Zoom) :
    (rs.foldl select z).applied? = rs.getLast? := by
  rw [foldl_select hrs, ofTrail, List.head?_append, List.head?_reverse,
    List.getLast?_eq_some_getLast hrs, Option.some_or]

/-- Zooming out takes the latest range away each time. -/
lemma iterate_out (k : Nat) (trail : List AxisRange) :
    out^[k] (ofTrail trail) = ofTrail (trail.drop k) := by
  induction k generalizing trail with
  | zero => rfl
  | succ k ih =>
      rw [Function.iterate_succ_apply, out_ofTrail, ih, ← List.drop_one, List.drop_drop,
        Nat.add_comm]

/-- **Ranges are left in the order opposite to that of their selection.**  Some ranges are selected
in a zoom, whatever happened to it before.

* Zooming out fewer times than that leaves what selecting only the first ones would have led to; so
  the last of these is applied.
* Zooming out as many times brings back the zoom if and only if a range was applied in it or
  nothing was remembered.
* Zooming out once more often than ranges are remembered leaves no range and nothing remembered. -/
theorem unwinds (z : Zoom) {rs : List AxisRange} (hrs : rs ≠ []) :
    (∀ k, ∀ hk : k < rs.length,
      out^[k] (rs.foldl select z) = (rs.take (rs.length - k)).foldl select z ∧
      (out^[k] (rs.foldl select z)).applied? = some rs[rs.length - k - 1]) ∧
    (out^[rs.length] (rs.foldl select z) = z ↔ z.applied?.isSome ∨ z.stack = []) ∧
    out^[z.depth + 1] z = start := by
  refine ⟨fun k hk => ?_, ?_, ?_⟩
  · have hfirst : rs.take (rs.length - k) ≠ [] := by
      simp [List.take_eq_nil_iff, hrs]
      omega
    have hdrop : (rs.reverse ++ z.trail).drop k
        = (rs.take (rs.length - k)).reverse ++ z.trail := by
      rw [List.drop_append_of_le_length (by simpa using Nat.le_of_lt hk), List.drop_reverse]
    have hleft : out^[k] (rs.foldl select z) = (rs.take (rs.length - k)).foldl select z := by
      rw [foldl_select hrs, foldl_select hfirst, iterate_out, hdrop]
    refine ⟨hleft, ?_⟩
    have hlast : rs.length - k - 1 < rs.length := by omega
    rw [hleft, applied?_foldl_select hfirst, List.getLast?_take, if_neg (by omega),
      List.getElem?_eq_getElem hlast, Option.some_or]
  · rw [foldl_select hrs, iterate_out, ← List.length_reverse, List.drop_left, ofTrail_trail_iff]
  · rw [Function.iterate_succ_apply, out_eq, iterate_out, depth, List.drop_length]
    rfl

/-- Two more ranges just before the change of the window, and just after it.  Zooming out once
leaves the first of them both times, but zooming out twice brings back only the zoom before the
change.  Two steps lead from either zoom to none. -/
theorem unwinds_narrowed :
    (out^[1] ([second 2, second 3].foldl select (zooms.after zooms.start narrowed))).applied?
      = some (second 2) ∧
    out^[2] ([second 2, second 3].foldl select (zooms.after zooms.start (narrowed.take 2)))
      = zooms.after zooms.start (narrowed.take 2) ∧
    out^[2] ([second 2, second 3].foldl select (zooms.after zooms.start narrowed))
      ≠ zooms.after zooms.start narrowed ∧
    out^[2] (zooms.after zooms.start narrowed) = start := by
  obtain ⟨-, hrestored, -⟩ := unwinds (zooms.after zooms.start (narrowed.take 2))
    (List.cons_ne_nil (second 2) [second 3])
  obtain ⟨hleft, hmissing, hall⟩ := unwinds (zooms.after zooms.start narrowed)
    (List.cons_ne_nil (second 2) [second 3])
  refine ⟨(hleft 1 (by decide)).2, hrestored.2 (.inl rfl), fun h => ?_, hall⟩
  exact absurd (hmissing.1 h) (by decide)

end Zoom

end Meterboard
