import Meterboard.Proofs.View.Refusal
import Meterboard.Proofs.View.Session

/-!
# The zoom of a view

Five of the events move the zoom: selecting a range and zooming out, and the three that set the
window.  The others have to leave it alone, and so have the five where they are refused.

**One event.**  `Event.isZoom` and `Event.isWindow` sort the events, and `handle_zoom_of_other`,
`handle_zoom_of_window` say what the sorts mean for the zoom.  That a window was accepted is read
off the table of refusals (`newWindow?_isSome`).

**A run.**  `play_zoom` — as long as nobody selects a range or zooms out, the ranges to step back to
stay, and the applied range stays until a window is accepted.

**Selecting and stepping back.**  The zooms of views are those that can be reached (`zoom_of_told`,
`told_of_zoom`), so what holds of every zoom holds of the zoom in every view.  `Zoom.out_select_iff`
— selecting a range and zooming out restores a zoom, and the view around it, **if and only if** a
range is applied or nothing is remembered, which fails just after a reset with something remembered.
-/

namespace Meterboard

/-- Zooming out changes something exactly where a range is applied or remembered: it takes a
remembered range away, or else the applied one. -/
lemma Zoom.out_ne_self_iff (z : Zoom) : z.out ≠ z ↔ z.isZoomed = true := by
  obtain ⟨applied?, stack⟩ := z
  cases stack with
  | cons range rest =>
      have hshorter : rest ≠ range :: rest := fun h => by simpa using congrArg List.length h
      exact iff_of_true (fun hsame => hshorter (congrArg Zoom.stack hsame)) (by simp [isZoomed])
  | nil => cases applied? <;> simp [out, isZoomed]

namespace View

/-! ## One event -/

/-- The event selects a range or zooms out. -/
def Event.isZoom : Event → Bool
  | .zoomSelected _ => true
  | .zoomOut => true
  | _ => false

/-- The event asks for another window. -/
def Event.isWindow : Event → Bool
  | .windowDoubled => true
  | .windowHalved => true
  | .windowEntered _ => true
  | _ => false

/-- An event sets the window if it asks for one and is not refused. -/
lemma newWindow?_isSome (v : View) (e : Event) :
    (v.newWindow? e).isSome = (e.isWindow && (v.refusal? e).isNone) := by
  cases e with
  | windowDoubled =>
      by_cases hlimit : 2 * Window.displayed v.window ≤ Duration.limit <;>
        simp [newWindow?, refusal?, Event.isWindow, hlimit]
  | windowEntered text =>
      cases hreads : Window.reads (Text.trim text) with
      | true =>
          obtain ⟨accepted, haccepted⟩ := Window.ofText_of_reads hreads
          simp [newWindow?, refusal?, Event.isWindow, Except.toOption, hreads, haccepted]
      | false =>
          have hrefused := Window.ofText_of_not_reads hreads
          simp [newWindow?, refusal?, Event.isWindow, Except.toOption, hreads, hrefused]
  | _ => rfl

/-- What is no operation on the zoom of its own is one only through the window. -/
lemma zoomOp?_of_not_isZoom {v : View} {e : Event} (h : e.isZoom = false) :
    v.zoomOp? e = (v.newWindow? e).map fun _ => .reset := by
  cases e with
  | zoomSelected range => cases h
  | zoomOut => cases h
  | _ => rfl

lemma handle_stack {v : View} {e : Event} (h : e.isZoom = false) (now : UInt64) :
    (v.handle e now).view.zoom.stack = v.zoom.stack := by
  rw [handle_zoom, zoomOp?_of_not_isZoom h]
  cases v.newWindow? e <;> rfl

/-- A window that is accepted takes the applied range away, and nothing else. -/
lemma handle_zoom_of_window {v : View} {e : Event} (hwindow : e.isWindow = true)
    (haccepted : v.refusal? e = none) (now : UInt64) :
    (v.handle e now).view.zoom = ⟨none, v.zoom.stack⟩ := by
  have hzoom : e.isZoom = false := by
    cases e with
    | zoomSelected range => cases hwindow
    | zoomOut => cases hwindow
    | _ => rfl
  have hnew : (v.newWindow? e).isSome = true := by
    rw [newWindow?_isSome, hwindow, haccepted]
    rfl
  obtain ⟨seconds, hseconds⟩ := Option.isSome_iff_exists.1 hnew
  rw [handle_zoom, zoomOp?_of_not_isZoom hzoom, hseconds]
  rfl

/-- Any other event leaves the zoom alone, a window that is refused among them. -/
lemma handle_zoom_of_other {v : View} {e : Event} (hzoom : e.isZoom = false)
    (hrefused : e.isWindow = true → (v.refusal? e).isSome) (now : UInt64) :
    (v.handle e now).view.zoom = v.zoom := by
  have hnew : v.newWindow? e = none := by
    rw [← Option.not_isSome_iff_eq_none, newWindow?_isSome]
    cases hwindow : e.isWindow with
    | true =>
        obtain ⟨effects, heffects⟩ := Option.isSome_iff_exists.1 (hrefused hwindow)
        simp [heffects]
    | false => simp
  rw [handle_zoom, zoomOp?_of_not_isZoom hzoom, hnew]
  rfl

/-! ## A run -/

/-- **The zoom along a run** without selections and without zooming out: what is remembered stays,
and the applied range is gone once a window was accepted. -/
theorem play_zoom {v : View} {es : List (Event × UInt64)}
    (h : ∀ x ∈ es, x.1.isZoom = false) :
    (v.play es).1.zoom
      = if (v.accepted es).any (·.1.isWindow) then ⟨none, v.zoom.stack⟩ else v.zoom := by
  induction es generalizing v with
  | nil => rfl
  | cons x es ih =>
      obtain ⟨e, now⟩ := x
      obtain ⟨hzoom, hrest⟩ := List.forall_mem_cons.1 h
      cases hrefusal : v.refusal? e with
      | some effects =>
          -- the other events find the view where this one found it
          have hsame := (handle_of_refusal hrefusal now).1
          simp only [play, accepted, hrefusal, Option.isSome_some, if_true, hsame]
          exact ih hrest
      | none =>
          have hplay := ih (v := (v.handle e now).view) hrest
          simp only [play, accepted, hplay, hrefusal, Option.isSome_none, Bool.false_eq_true,
            if_false, List.any_cons]
          cases hwindow : e.isWindow with
          | true =>
              rw [handle_zoom_of_window hwindow hrefusal now]
              simp
          | false =>
              have hsame := handle_zoom_of_other (v := v) hzoom (by simp [hwindow]) now
              simp only [hsame, Bool.false_or]

/-- **What happens to the zoom of a view**, whatever it was told before.

* The ranges to step back to change only where a range is selected or the user zooms out.
* Selecting a range applies it, and remembers the range that was applied, if there was one.
* Zooming out applies the latest range that is remembered, or none, and so changes the zoom exactly
  where it is zoomed.
* A window that is accepted takes the applied range away and keeps all that is remembered.
* Every other event leaves the zoom as it was, a window that is refused among them.
* The same along a run without selections and without zooming out. -/
theorem zoom_frame (v : View) (e : Event) (now : UInt64) :
    ((v.handle e now).view.zoom.stack ≠ v.zoom.stack → e.isZoom = true) ∧
    (∀ range, (v.handle (.zoomSelected range) now).view.zoom.applied? = some range ∧
      (v.handle (.zoomSelected range) now).view.zoom.stack
        = v.zoom.applied?.elim v.zoom.stack (· :: v.zoom.stack)) ∧
    (v.zoom.stack = [] → (v.handle .zoomOut now).view.zoom = ⟨none, []⟩) ∧
    (∀ range rest, v.zoom.stack = range :: rest →
      (v.handle .zoomOut now).view.zoom = ⟨some range, rest⟩) ∧
    ((v.handle .zoomOut now).view.zoom ≠ v.zoom ↔ v.zoom.isZoomed = true) ∧
    (e.isWindow = true → v.refusal? e = none →
      (v.handle e now).view.zoom = ⟨none, v.zoom.stack⟩) ∧
    (e.isZoom = false → (e.isWindow = true → (v.refusal? e).isSome) →
      (v.handle e now).view.zoom = v.zoom) ∧
    ∀ es : List (Event × UInt64), (∀ x ∈ es, x.1.isZoom = false) →
      (v.play es).1.zoom
        = if (v.accepted es).any (·.1.isWindow) then ⟨none, v.zoom.stack⟩ else v.zoom := by
  have hselect (range : AxisRange) :
      (v.handle (.zoomSelected range) now).view.zoom = v.zoom.select range := rfl
  have hout : (v.handle .zoomOut now).view.zoom = v.zoom.out := rfl
  refine ⟨?_, fun range => ⟨rfl, ?_⟩, ?_, ?_, ?_, fun hwindow haccepted => ?_,
    fun hzoom hrefused => ?_, fun es => play_zoom⟩
  · intro hmoved
    cases hzoom : e.isZoom with
    | true => rfl
    | false => exact absurd (handle_stack hzoom now) hmoved
  · rw [hselect, Zoom.select]
    cases v.zoom.applied? <;> rfl
  · intro hstack
    rw [hout, Zoom.out, hstack]
    rfl
  · intro range rest hstack
    rw [hout, Zoom.out, hstack]
    rfl
  · rw [hout]
    exact v.zoom.out_ne_self_iff
  · exact handle_zoom_of_window hwindow haccepted now
  · exact handle_zoom_of_other hzoom hrefused now

/-- A view in which a range was selected twice. -/
def zoomedTwice : View :=
  { ofSettings default with zoom := ⟨some (Zoom.second 1), [Zoom.second 0]⟩ }

/-- A window is refused, the user asks for new data, and the window is halved: the applied range is
there until the window changes, and the range before it all the time. -/
theorem zoom_frame_halved :
    (zoomedTwice.handle (.windowEntered "soon") 0).view.zoom = zoomedTwice.zoom ∧
    (zoomedTwice.handle .windowHalved 0).view.zoom = ⟨none, [Zoom.second 0]⟩ ∧
    (zoomedTwice.play [(.windowEntered "soon", 0), (.refetch, 0)]).1.zoom = zoomedTwice.zoom ∧
    (zoomedTwice.play [(.windowEntered "soon", 0), (.refetch, 0), (.windowHalved, 0)]).1.zoom
      = ⟨none, [Zoom.second 0]⟩ ∧
    (zoomedTwice.handle .zoomOut 0).view.zoom = ⟨some (Zoom.second 0), []⟩ := by
  obtain ⟨-, -, -, -, -, -, hrefused, hplay⟩ := zoom_frame zoomedTwice (.windowEntered "soon") 0
  obtain ⟨-, -, -, hout, -, hhalved, -, -⟩ := zoom_frame zoomedTwice .windowHalved 0
  refine ⟨hrefused rfl fun _ => by decide, hhalved rfl rfl, ?_, ?_, hout _ _ rfl⟩
  · exact (hplay [(.windowEntered "soon", 0), (.refetch, 0)] (by decide)).trans (by rfl)
  · exact (hplay [(.windowEntered "soon", 0), (.refetch, 0), (.windowHalved, 0)]
      (by decide)).trans (by rfl)

/-! ## Selecting and stepping back -/

/-- The zoom of a view is a zoom that selecting, zooming out and changing the window can reach. -/
theorem zoom_of_told {settings : ViewSettings} {seen : List (View × Event × UInt64)} {v : View}
    (run : Run (told settings) seen v) : ∃ history, Run Zoom.zooms history v.zoom := by
  refine run.simulate View.zoom rfl fun v e _ => ?_
  have hzoom : ((told settings).next v e).zoom
      = ((v.zoomOp? e.1).map v.zoom.perform).getD v.zoom := handle_zoom v e.1 e.2
  rw [hzoom]
  cases v.zoomOp? e.1 with
  | none => exact .inl rfl
  | some op => exact .inr ⟨op, trivial, rfl⟩

/-- Every zoom that can be reached is the zoom of a view. -/
theorem told_of_zoom (settings : ViewSettings) {history : List (Zoom × Zoom.Op)} {z : Zoom}
    (run : Run Zoom.zooms history z) : ∃ seen v, Run (told settings) seen v ∧ v.zoom = z := by
  induction run with
  | start => exact ⟨[], _, .start, rfl⟩
  | @step history z op _ _ ih =>
      obtain ⟨seen, v, hrun, rfl⟩ := ih
      cases op with
      | select range => exact ⟨_, _, hrun.step (i := (.zoomSelected range, 0)) trivial, rfl⟩
      | out => exact ⟨_, _, hrun.step (i := (.zoomOut, 0)) trivial, rfl⟩
      | reset =>
          exact ⟨_, _, hrun.step (i := (.windowHalved, 0)) trivial,
            handle_zoom_of_window rfl rfl 0⟩

end View

namespace Zoom

/-- **Selecting a range and zooming out** restores a zoom if and only if a range is applied or
nothing is remembered.  Of the zooms that can be reached, it fails on those just after a reset with
something remembered; there zooming out takes the latest range that is remembered, as it would have
done without the selection.  In a view, the two events together do just this.  The zooms that can be
reached are the zooms of views, whatever these are told; so the two events restore the whole view
under the same condition. -/
theorem out_select_iff {history : List (Zoom × Op)} {z : Zoom} (run : Run zooms history z)
    (r : AxisRange) :
    ((z.select r).out = z ↔ z.applied?.isSome ∨ z.stack = []) ∧
    ((z.select r).out ≠ z ↔
      z.stack ≠ [] ∧ ∃ before, history.getLast? = some (before, .reset)) ∧
    ((z.select r).out ≠ z → (z.select r).out = z.out) ∧
    (∀ (v : View) (now later : UInt64), v.zoom = z →
      ((v.handle (.zoomSelected r) now).view.handle .zoomOut later).view
        = { v with zoom := (z.select r).out }) ∧
    ∀ settings : ViewSettings,
      (∃ seen v, Run (View.told settings) seen v ∧ v.zoom = z) ∧
      ∀ seen v, Run (View.told settings) seen v →
        (∃ reached, Run zooms reached v.zoom) ∧
        ∀ now later, ((v.handle (.zoomSelected r) now).view.handle .zoomOut later).view = v ↔
          v.zoom.applied?.isSome ∨ v.zoom.stack = [] := by
  have htogether (v : View) (now later : UInt64) :
      ((v.handle (.zoomSelected r) now).view.handle .zoomOut later).view
        = { v with zoom := (v.zoom.select r).out } := rfl
  have hnot := out_select_ne_self_iff z r
  refine ⟨out_select_eq_self_iff z r, hnot.trans (reset_of_run run),
    fun h => out_select_of_none (hnot.1 h).1 r, ?_, fun settings => ⟨View.told_of_zoom settings run,
      fun seen v htold => ⟨View.zoom_of_told htold, fun now later => ?_⟩⟩⟩
  · rintro v now later rfl
    exact htogether v now later
  · rw [htogether, ← out_select_eq_self_iff v.zoom r]
    constructor
    · exact fun hsame => congrArg View.zoom hsame
    · intro hsame
      rw [hsame]

lemma run_narrowed :
    Run zooms (zooms.trace zooms.start narrowed) (zooms.after zooms.start narrowed) :=
  Run.start.extend narrowed fun _ _ => trivial

/-- Just after the change of the window, and just before it. -/
theorem out_select_iff_narrowed :
    (((zooms.after zooms.start narrowed).select (second 2)).out
      = (zooms.after zooms.start narrowed).out) ∧
    (((zooms.after zooms.start (narrowed.take 2)).select (second 2)).out
      = zooms.after zooms.start (narrowed.take 2)) := by
  have hrun := (Run.start (S := zooms)).extend (narrowed.take 2) fun _ _ => trivial
  constructor
  · have hmissing := (out_select_iff run_narrowed (second 2)).2.1.2 ⟨by decide, _, rfl⟩
    exact (out_select_iff run_narrowed (second 2)).2.2.1 hmissing
  · exact (out_select_iff hrun (second 2)).1.2 (.inl rfl)

/-- **A selection is not always undone.**  After a change of the window, selecting a range and
zooming out brings back the first range that was selected. -/
theorem out_select_after_reset :
    ∃ history z r, Run zooms history z ∧ z = ⟨none, [second 0]⟩ ∧
      (z.select r).out = ⟨some (second 0), []⟩ ∧ (z.select r).out ≠ z :=
  ⟨_, _, second 2, run_narrowed, rfl, rfl, nofun⟩

end Zoom

end Meterboard
