import Meterboard.Proofs.View.Refusal

/-!
# What can be seen is drawn

The screen shows the options and choices of three selectors, the window, the transform, the zoom and
the series.  It is drawn only when a view asks for it, so an event that changes any of these and
forgets to ask leaves an old picture behind.

* `View.LooksLike` — two views of which the same can be seen.  What they asked of the store may
  differ.
* `render_of_accepted` — whatever is neither stale nor refused is drawn, unless it only sends calls.
* `render_of_change` — an event that changes what can be seen is drawn.
-/

namespace Meterboard.View

/-- The same can be seen of both views. -/
structure LooksLike (v w : View) : Prop where
  metric : w.cascade.metric = v.cascade.metric
  host : w.cascade.host = v.cascade.host
  interface : w.cascade.interface = v.cascade.interface
  window : w.window = v.window
  transform : w.transform = v.transform
  zoom : w.zoom = v.zoom
  series : w.series = v.series

lemma LooksLike.refl (v : View) : v.LooksLike v := ⟨rfl, rfl, rfl, rfl, rfl, rfl, rfl⟩

lemma LooksLike.of_eq {v w : View} (h : w = v) : v.LooksLike w := h ▸ .refl _

lemma LooksLike.trans {u v w : View} (h : u.LooksLike v) (h' : v.LooksLike w) : u.LooksLike w where
  metric := h'.metric.trans h.metric
  host := h'.host.trans h.host
  interface := h'.interface.trans h.interface
  window := h'.window.trans h.window
  transform := h'.transform.trans h.transform
  zoom := h'.zoom.trans h.zoom
  series := h'.series.trans h.series

lemma render_mem_setWindow (v : View) (seconds : Int) (now : UInt64) :
    .render ∈ (v.setWindow seconds now).effects := by
  simp [setWindow_effects]

/-- **What counts is drawn.**  Filling the selectors and fetching only send calls; any other event
that is neither stale nor refused asks for the screen to be drawn. -/
theorem render_of_accepted {v : View} {e : Event} (hstale : v.stale e = false)
    (haccepted : v.refusal? e = none) (hstart : e ≠ .start) (hrefetch : e ≠ .refetch)
    (now : UInt64) : .render ∈ (v.handle e now).effects := by
  cases e with
  | start => exact absurd rfl hstart
  | metricSelected value => exact List.mem_cons_self
  | hostSelected value => exact List.mem_cons_self
  | interfaceSelected value =>
      have hvalue : value ∈ v.cascade.interface.options := by simpa [refusal?] using haccepted
      unfold handle
      simp only [Cascade.chooseInterface?, Selection.choose?, hvalue, if_true, Option.map_some]
      exact List.mem_cons_self
  | transformSelected transform => exact List.mem_cons_self
  | windowDoubled =>
      have hlimit : 2 * Window.displayed v.window ≤ Duration.limit := by
        simpa [refusal?] using haccepted
      unfold handle
      simp only [hlimit, if_true]
      exact render_mem_setWindow v _ now
  | windowHalved => exact render_mem_setWindow v _ now
  | windowEntered text =>
      have hreads : Window.reads (Text.trim text) = true := by simpa [refusal?] using haccepted
      obtain ⟨accepted, haccepted⟩ := Window.ofText_of_reads hreads
      unfold handle
      simp only [haccepted]
      exact render_mem_setWindow v _ now
  | zoomSelected range => exact List.mem_cons_self
  | zoomOut => exact List.mem_cons_self
  | refetch => exact absurd rfl hrefetch
  | listCompleted level generation result =>
      have hlatest : generation = v.cascade.issued level := by simpa [stale] using hstale
      cases result with
      | error err => simp [refusal?, hlatest] at haccepted
      | ok response =>
          have hfresh : (v.cascade.apply level generation (.ok response)).outcome ≠ .stale :=
            Cascade.outcome_ne_stale_iff.2 hlatest
          unfold handle takeList
          dsimp only
          split
          · contradiction
          · rename_i message hfailed
            obtain ⟨-, err, herror⟩ := Cascade.failed_of_outcome hfailed
            cases herror
          · exact List.mem_cons_self
          · exact List.mem_cons_self
          · exact List.mem_cons_self
  | getCompleted generation result =>
      have hlatest : generation = v.getsIssued := by simpa [stale] using hstale
      cases result with
      | ok response =>
          unfold handle takeGet
          simp [hlatest]
      | error err => simp [refusal?, hlatest] at haccepted

/-- **Visible changes are drawn.** -/
theorem render_of_change {v : View} {e : Event} {now : UInt64}
    (h : ¬ v.LooksLike (v.handle e now).view) : .render ∈ (v.handle e now).effects := by
  refine render_of_accepted ?_ ?_ ?_ ?_ now
  · exact Bool.eq_false_iff.2 fun hstale => h (.of_eq (handle_of_stale hstale now).1)
  · cases hrefusal : v.refusal? e with
    | none => rfl
    | some effects => exact absurd (.of_eq (handle_of_refusal hrefusal now).1) h
  · rintro rfl
    exact h ⟨rfl, rfl, rfl, rfl, rfl, rfl, rfl⟩
  · rintro rfl
    obtain ⟨n, span?, hview⟩ := handle_view v .refetch now
    rw [hview] at h
    exact h ⟨rfl, rfl, rfl, rfl, rfl, rfl, rfl⟩

end Meterboard.View
