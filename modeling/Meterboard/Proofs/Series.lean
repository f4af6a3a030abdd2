import Meterboard.Proofs.Cascade.Scope
import Meterboard.Proofs.Double.Order
import Meterboard.Proofs.View.Session
import Meterboard.Screen.Chart

/-!
# The series on the chart

A chart that is not zoomed shows all that the latest query brought, and nothing else.

**From the response.**  `ChartSeries.Plots` says which points the samples of a stream have, and
`ChartSeries.Charts` which line a stream has.  `series_of_run` — the series of a view are the lines
of the last response that was not too late.

**Over the time axis.**  `AxisRange.Spans` — a range from one of some times to another with all of
them in between.  Taking in one time after the other keeps it (`Spans.grow`), so the bounds of the
axis span the times of all points (`spans_bounds`), and the filter of the chart drops none of them.
-/

namespace Meterboard

/-! ## Lines of streams -/

namespace ChartSeries

/-- The points that samples have, in the same order: one for each sample with a number, at its
time. -/
inductive Plots : List Sample → List (Double × Double) → Prop
  | nil : Plots [] []
  | number {s : Sample} {samples : List Sample} {points : List (Double × Double)} {x : Double} :
      s.double? = some x → Plots samples points →
        Plots (s :: samples) ((Double.ofNat s.timestamp.toNat, x) :: points)
  | other {s : Sample} {samples : List Sample} {points : List (Double × Double)} :
      s.double? = none → Plots samples points → Plots (s :: samples) points

/-- The line of a stream: its variable as the label, and the points of its samples. -/
structure Charts (stream : MetricStream) (line : ChartSeries) : Prop where
  label : line.label = stream.name
  points : Plots stream.samples line.points

lemma plots_filterMap (samples : List Sample) : Plots samples (samples.filterMap point?) := by
  induction samples with
  | nil => exact .nil
  | cons s samples ih =>
      cases hdouble : s.double? with
      | none => simpa [point?, hdouble] using Plots.other hdouble ih
      | some x => simpa [point?, hdouble] using Plots.number hdouble ih

lemma charts_ofStream (stream : MetricStream) : Charts stream (ofStream stream) :=
  ⟨rfl, plots_filterMap stream.samples⟩

/-- The time of a point is a number. -/
lemma Plots.isNaN_time {samples : List Sample} {points : List (Double × Double)}
    (h : Plots samples points) : ∀ p ∈ points, p.1.isNaN = false := by
  induction h with
  | nil => nofun
  | number _ _ ih => exact List.forall_mem_cons.2 ⟨Double.isNaN_ofNat _, ih⟩
  | other _ _ ih => exact ih

end ChartSeries

/-! ## Ranges over times -/

namespace AxisRange

lemma holds_iff {r : AxisRange} {t : Double} :
    r.holds t = true ↔ r.min.le t = true ∧ t.le r.max = true := by
  rw [holds, Bool.and_eq_true]

/-- The range reaches from one of the times to another, and all of them lie in it. -/
structure Spans (r : AxisRange) (ts : List Double) : Prop where
  min_mem : r.min ∈ ts
  max_mem : r.max ∈ ts
  holds : ∀ t ∈ ts, r.holds t = true

lemma spans_one {t : Double} (ht : t.isNaN = false) : Spans ⟨t, t⟩ [t] where
  min_mem := List.mem_singleton_self t
  max_mem := List.mem_singleton_self t
  holds := by
    intro u hu
    obtain rfl := List.mem_singleton.1 hu
    exact holds_iff.2 ⟨Double.le_refl ht, Double.le_refl ht⟩

namespace Spans

variable {r : AxisRange} {ts : List Double}

/-- The ends of a range over times are numbers. -/
lemma isNaN (h : Spans r ts) : r.min.isNaN = false ∧ r.max.isNaN = false := by
  obtain ⟨hmin, -⟩ := holds_iff.1 (h.holds _ h.min_mem)
  obtain ⟨-, hmax⟩ := holds_iff.1 (h.holds _ h.max_mem)
  exact ⟨(Double.le_iff.1 hmin).1, (Double.le_iff.1 hmax).1⟩

/-- **One more time.** -/
lemma grow (h : Spans r ts) {t : Double} (ht : t.isNaN = false) :
    Spans ⟨r.min.min t, r.max.max t⟩ (ts ++ [t]) := by
  obtain ⟨hmin, hmax⟩ := h.isNaN
  obtain ⟨hminold, hminnew⟩ := Double.min_le hmin ht
  obtain ⟨hmaxold, hmaxnew⟩ := Double.le_max hmax ht
  have hnew : t ∈ [t] := List.mem_singleton_self t
  refine ⟨?_, ?_, fun u hu => ?_⟩
  · exact Double.min_mem (List.mem_append_left _ h.min_mem) (List.mem_append_right _ hnew)
  · exact Double.max_mem (List.mem_append_left _ h.max_mem) (List.mem_append_right _ hnew)
  · rcases List.mem_append.1 hu with hu | hu
    · obtain ⟨hbelow, habove⟩ := holds_iff.1 (h.holds u hu)
      exact holds_iff.2 ⟨Double.le_trans hminold hbelow, Double.le_trans habove hmaxold⟩
    · obtain rfl := List.mem_singleton.1 hu
      exact holds_iff.2 ⟨hminnew, hmaxnew⟩

/-- **All further times**, one after the other. -/
lemma foldl (h : Spans r ts) {us : List Double} (hus : ∀ u ∈ us, u.isNaN = false) :
    Spans (us.foldl (fun r u => ⟨r.min.min u, r.max.max u⟩) r) (ts ++ us) := by
  induction us generalizing r ts with
  | nil => simpa using h
  | cons u us ih =>
      obtain ⟨hu, hrest⟩ := List.forall_mem_cons.1 hus
      have hgrown := ih (h.grow hu) hrest
      rwa [List.append_assoc] at hgrown

/-- The ends are in order, so putting them in order changes nothing that matters. -/
lemma between (h : Spans r ts) : Spans (between r.min r.max) ts := by
  obtain ⟨hmin, hmax⟩ := h.isNaN
  obtain ⟨hbelow, -⟩ := Double.min_le hmin hmax
  obtain ⟨-, habove⟩ := Double.le_max hmin hmax
  refine ⟨Double.min_mem h.min_mem h.max_mem, Double.max_mem h.min_mem h.max_mem,
    fun t ht => ?_⟩
  obtain ⟨hfrom, hto⟩ := holds_iff.1 (h.holds t ht)
  exact holds_iff.2 ⟨Double.le_trans hbelow hfrom, Double.le_trans hto habove⟩

end Spans

/-- The first and the last time of all points span them. -/
lemma spans_extent {lines : List ChartSeries} {t : Double} (ht : t ∈ ChartSeries.times lines)
    (hnumbers : ∀ u ∈ ChartSeries.times lines, u.isNaN = false) :
    ∃ r, ChartSeries.extent? lines = some r ∧ Spans r (ChartSeries.times lines) := by
  unfold ChartSeries.extent?
  cases htimes : ChartSeries.times lines with
  | nil =>
      rw [htimes] at ht
      cases ht
  | cons u us =>
      rw [htimes] at hnumbers
      obtain ⟨hu, hus⟩ := List.forall_mem_cons.1 hnumbers
      exact ⟨_, rfl, (spans_one hu).foldl hus⟩

end AxisRange

namespace View

open ChartSeries (Charts times)

/-! ## The series along a run -/

/-- The response that an event brings, if it is not too late. -/
def answered? (x : View × Event × UInt64) : Option GetResponse :=
  match x.2.1 with
  | .getCompleted generation (.ok response) =>
      if generation = x.1.getsIssued then some response else none
  | _ => none

/-- An event replaces the series by those of the response that it brings, or leaves them alone. -/
lemma handle_series (v : View) (e : Event) (now : UInt64) :
    (v.handle e now).view.series
      = (answered? (v, e, now)).elim v.series fun r => r.streams.map ChartSeries.ofStream := by
  obtain ⟨n, span?, hview⟩ := handle_view v e now
  rw [hview]
  cases e with
  | getCompleted generation result =>
      cases result with
      | error err => rfl
      | ok response =>
          by_cases hlatest : generation = v.getsIssued <;> simp [changed, answered?, hlatest]
  | _ => rfl

/-- The streams of the last response that was not too late. -/
def fetched (seen : List (View × Event × UInt64)) : List MetricStream :=
  (latest? answered? seen).elim [] (·.streams)

/-- The series of a view are the lines of the streams that were fetched last. -/
theorem series_of_run {settings : ViewSettings} {seen : List (View × Event × UInt64)} {v : View}
    (run : Run (told settings) seen v) : v.series = (fetched seen).map ChartSeries.ofStream := by
  induction run with
  | start => rfl
  | @step seen v x _ _ ih =>
      obtain ⟨e, now⟩ := x
      have hseries : ((told settings).next v (e, now)).series
          = (answered? (v, e, now)).elim v.series fun r => r.streams.map ChartSeries.ofStream :=
        handle_series v e now
      rw [hseries, fetched, latest?_concat]
      cases answered? (v, e, now) with
      | some response => rfl
      | none => exact ih

/-! ## The axis of a chart that is not zoomed -/

lemma mem_times {lines : List ChartSeries} {t : Double} :
    t ∈ times lines ↔ ∃ line ∈ lines, ∃ p ∈ line.points, p.1 = t := by
  simp only [times, List.mem_flatMap, List.mem_map]

/-- The times of fetched points are numbers. -/
lemma isNaN_times {streams : List MetricStream} :
    ∀ t ∈ times (streams.map ChartSeries.ofStream), t.isNaN = false := by
  intro t ht
  obtain ⟨line, hline, p, hp, rfl⟩ := mem_times.1 ht
  obtain ⟨stream, -, rfl⟩ := List.mem_map.1 hline
  exact (ChartSeries.charts_ofStream stream).points.isNaN_time p hp

/-- The bounds of the time axis, unless zoomed, span the times of all points. -/
lemma spans_bounds {v : View} (hzoom : v.zoom.applied? = none) {t : Double}
    (ht : t ∈ times v.series) (hnumbers : ∀ u ∈ times v.series, u.isNaN = false) :
    ∃ r, v.bounds? = some r ∧ r.Spans (times v.series) := by
  obtain ⟨r, hextent, hspans⟩ := AxisRange.spans_extent ht hnumbers
  exact ⟨.between r.min r.max, by rw [bounds?, hzoom, hextent], hspans.between⟩

/-- All times lie between the bounds, whatever these are taken from. -/
lemma holds_of_bounds {v : View} (hzoom : v.zoom.applied? = none)
    (hnumbers : ∀ u ∈ times v.series, u.isNaN = false) {r : AxisRange} (hr : v.bounds? = some r) :
    ∀ t ∈ times v.series, r.holds t = true := by
  intro t ht
  obtain ⟨s, hs, hspans⟩ := spans_bounds hzoom ht hnumbers
  obtain rfl : s = r := Option.some.inj (hs.symm.trans hr)
  exact hspans.holds t ht

end View

namespace Board

open ChartSeries (Charts times)

variable {σ : Type}

/-- The curves of a chart whose range holds all times are the series. -/
lemma curves_of_holds {b : Board σ} {r : AxisRange}
    (h : ∀ t ∈ times b.view.series, r.holds t = true) :
    (b.curves r).map (fun c => (c.label, c.points))
      = b.view.series.map fun line => (line.label, line.points) := by
  have hvisible : ∀ line ∈ b.view.series, line.visible r = line.points := fun line hline =>
    List.filter_eq_self.2 fun p hp => h p.1 (View.mem_times.2 ⟨line, hline, p, hp, rfl⟩)
  refine List.ext_getElem (by simp [curves]) fun i hi _ => ?_
  have hi : i < b.view.series.length := by simpa [curves] using hi
  simp [curves, hvisible _ (List.getElem_mem hi)]

/-- The curves of a chart lie between the bounds of the view. -/
lemma chart?_eq_some {b : Board σ} {zone : Calendar.Zone} {area : Area} {chart : Chart}
    (h : b.chart? zone area = some chart) :
    ∃ r, b.view.bounds? = some r ∧ chart.curves = b.curves r := by
  unfold chart? at h
  split at h
  · rename_i r hr
    split at h
    · cases h
    · cases h
      exact ⟨r, hr, rfl⟩
  · cases h

lemma chart?_isSome {b : Board σ} {r : AxisRange} (hr : b.view.bounds? = some r)
    (hseries : b.view.series ≠ []) (zone : Calendar.Zone) (area : Area) :
    (b.chart? zone area).isSome = true := by
  have hsome : b.view.series.isEmpty = false := by simpa using hseries
  unfold chart?
  simp [hr, hsome]

/-- **An unzoomed chart shows all that was fetched, and nothing else.**  Whatever a view was told,
each of its series is the line of a stream of the last response that was not too late: under the
variable of the stream, a point for each sample with a number, in order.  If there was no such
response, there are no series.  Without an applied range, moreover,

* every point lies between the bounds of the time axis, and each bound is the time of a point;
* if there is a point, there is a chart, and the curves of a chart have all points of the series. -/
theorem unzoomed_shows_fetched {settings : ViewSettings}
    {seen : List (View × View.Event × UInt64)} {v : View}
    (run : Run (View.told settings) seen v) :
    List.Forall₂ Charts (View.fetched seen) v.series ∧
    (v.zoom.applied? = none →
      (∀ line ∈ v.series, ∀ p ∈ line.points, ∃ r, v.bounds? = some r ∧
        r.min.le p.1 = true ∧ p.1.le r.max = true ∧
        r.min ∈ times v.series ∧ r.max ∈ times v.series) ∧
      ∀ (σ : Type) (b : Board σ) (zone : Calendar.Zone) (area : Area), b.view = v →
        ((∃ line ∈ v.series, line.points ≠ []) → (b.chart? zone area).isSome = true) ∧
        ∀ chart, b.chart? zone area = some chart →
          chart.curves.map (fun c => (c.label, c.points))
            = v.series.map fun line => (line.label, line.points)) := by
  have hseries := View.series_of_run run
  have hnumbers : ∀ t ∈ times v.series, t.isNaN = false := hseries ▸ View.isNaN_times
  refine ⟨?_, fun hzoom => ⟨fun line hline p hp => ?_, ?_⟩⟩
  · rw [hseries, List.forall₂_map_right_iff]
    exact List.forall₂_same.2 fun stream _ => ChartSeries.charts_ofStream stream
  · have hp := View.mem_times.2 ⟨line, hline, p, hp, rfl⟩
    obtain ⟨r, hr, hspans⟩ := View.spans_bounds hzoom hp hnumbers
    obtain ⟨hfrom, hto⟩ := AxisRange.holds_iff.1 (hspans.holds p.1 hp)
    exact ⟨r, hr, hfrom, hto, hspans.min_mem, hspans.max_mem⟩
  · rintro σ b zone area rfl
    refine ⟨?_, fun chart hchart => ?_⟩
    · rintro ⟨line, hline, hpoints⟩
      obtain ⟨p, hp⟩ := List.exists_mem_of_ne_nil _ hpoints
      obtain ⟨r, hr, -⟩ :=
        View.spans_bounds hzoom (View.mem_times.2 ⟨line, hline, p, hp, rfl⟩) hnumbers
      exact chart?_isSome hr (List.ne_nil_of_mem hline) zone area
    · obtain ⟨r, hr, hcurves⟩ := chart?_eq_some hchart
      rw [hcurves]
      exact curves_of_holds (View.holds_of_bounds hzoom hnumbers hr)

/-- A number, a text and a number from an earlier time, and a stream without samples. -/
def unsorted : List MetricStream :=
  [⟨"m", [⟨2000, some .one, none, none⟩, ⟨3000, none, some "down", none⟩,
    ⟨1000, some .zero, none, none⟩]⟩, ⟨"n", []⟩]

/-- The view is filled, takes a response, and loses the next one. -/
def answered : List (View.Event × UInt64) :=
  [(.start, 0), (.listCompleted .top 1 Cascade.oneInterface, 0),
    (.listCompleted .interfaces 1 Cascade.oneInterface, 0),
    (.getCompleted 1 (.ok ⟨true, none, unsorted⟩), 0), (.refetch, 0),
    (.getCompleted 1 (.ok ⟨true, none, []⟩), 0),
    (.getCompleted 2 (.error (.transport .get .timeout)), 0)]

/-- The views without preferences, whatever they are told. -/
abbrev plainViews : System View (View.Event × UInt64) := View.told default

lemma run_answered :
    Run plainViews (plainViews.trace plainViews.start answered)
      (plainViews.after plainViews.start answered) :=
  Run.start.extend answered fun _ _ => trivial

/-- A board with that view. -/
def answeredBoard : Board Unit :=
  { Board.of () default .dark with view := plainViews.after plainViews.start answered }

/-- The line of the stream with numbers. -/
def unsortedLine : ChartSeries := ⟨"m", [(.ofNat 2000, .one), (.ofNat 1000, .zero)]⟩

/-- The first response is still there, and the chart reaches from its last point to its first. -/
theorem unzoomed_shows_fetched_unsorted :
    List.Forall₂ Charts unsorted answeredBoard.view.series ∧
    (∃ r, answeredBoard.view.bounds? = some r ∧ r = ⟨.ofNat 1000, .ofNat 2000⟩ ∧
      r.min.le (.ofNat 2000) = true ∧ (Double.ofNat 2000).le r.max = true) ∧
    ∃ chart, answeredBoard.chart? .universal ⟨0, 0, 80, 20⟩ = some chart ∧
      chart.curves.map (fun c => (c.label, c.points))
        = [("m", [(.ofNat 2000, .one), (.ofNat 1000, .zero)]), ("n", [])] := by
  obtain ⟨hcharts, hunzoomed⟩ := unzoomed_shows_fetched run_answered
  obtain ⟨hbounds, hchart⟩ := hunzoomed (by rfl)
  have hseries : (plainViews.after plainViews.start answered).series = [unsortedLine, ⟨"n", []⟩] :=
    rfl
  have hline : unsortedLine ∈ (plainViews.after plainViews.start answered).series :=
    hseries ▸ List.mem_cons_self
  obtain ⟨hsome, hcurves⟩ := hchart Unit answeredBoard .universal ⟨0, 0, 80, 20⟩ rfl
  obtain ⟨chart, hdrawn⟩ := Option.isSome_iff_exists.1 (hsome ⟨_, hline, List.cons_ne_nil _ _⟩)
  obtain ⟨r, hr, hfrom, hto, -, -⟩ := hbounds _ hline (.ofNat 2000, .one) List.mem_cons_self
  have hcomputed : answeredBoard.view.bounds? = some ⟨.ofNat 1000, .ofNat 2000⟩ := by
    decide +kernel
  have hends : r = ⟨.ofNat 1000, .ofNat 2000⟩ := Option.some.inj (hr.symm.trans hcomputed)
  refine ⟨hcharts, ⟨r, hr, hends, hfrom, hto⟩, chart, hdrawn, ?_⟩
  rw [hcurves chart hdrawn, hseries]
  rfl

end Board

end Meterboard
