import Meterboard.Proofs.Cascade.Traffic
import Meterboard.Proofs.Zoom

/-!
# What an event does to a view

`View.handle` tells thirteen events apart.  A statement about all of them would do so again, so this
file does it once for each of the things that such statements are about.

**The view.**  `View.changed` is the view after an event, field by field, but for the query that the
event may lead to, and `View.fetches` tells which events ask for one.  `handle_queries` says that
`View.handle` does just that, and what one field does, as the cascade or the zoom, is read off it.

**Queries.**  An event sends at most one, with the next number, for what is chosen after it
(`handle_gets`).

**Listings.**  The listings an event sends are those of its operation on the cascade
(`handle_lists`).

**Fetching.**  `turn_handle` sorts the events by what they mean for fetching: a query is sent
(`Fetched`), the latest query was answered and the timer is set (`Rearmed`), or neither (`Quiet`).
-/

namespace Meterboard.View

/-! ## What an event asks of the parts of a view -/

/-- The operation on the cascade that an event amounts to. -/
def Event.op? : Event → Option Cascade.Op
  | .start => some .refreshTop
  | .metricSelected value => some (.chooseMetric value)
  | .hostSelected value => some (.chooseHost value)
  | .interfaceSelected value => some (.chooseInterface value)
  | .listCompleted level generation result => some (.apply level generation result)
  | _ => none

/-- The window that an event sets; nothing for an event that sets none or is refused. -/
def newWindow? (v : View) : Event → Option Int
  | .windowDoubled =>
      if 2 * Window.displayed v.window ≤ Duration.limit then some (2 * Window.displayed v.window)
      else none
  | .windowHalved => some (max (Window.displayed v.window / 2) 1)
  | .windowEntered text => (Window.ofText (Text.trim text)).toOption.map (·.seconds)
  | _ => none

/-- The operation on the zoom that an event amounts to. -/
def zoomOp? (v : View) : Event → Option Zoom.Op
  | .zoomSelected range => some (.select range)
  | .zoomOut => some .out
  | e => (v.newWindow? e).map fun _ => .reset

/-- The event asks for a query, if everything is chosen: an interface that is offered or a transform
was selected, a window was set, the refetch timer or the user asked, or a listing completed the
selection. -/
def fetches (v : View) : Event → Bool
  | .interfaceSelected value => value ∈ v.cascade.interface.options
  | .transformSelected _ => true
  | .refetch => true
  | .listCompleted level generation result =>
      (v.cascade.apply level generation result).outcome = .ready
  | e => (v.newWindow? e).isSome

/-- The view after an event, but for the query that the event may lead to. -/
def changed (v : View) (e : Event) : View where
  cascade := (e.op?.map fun op => (v.cascade.perform op).1).getD v.cascade
  window := (v.newWindow? e).getD v.window
  transform :=
    match e with
    | .transformSelected transform => transform
    | _ => v.transform
  zoom := ((v.zoomOp? e).map v.zoom.perform).getD v.zoom
  series :=
    match e with
    | .getCompleted generation (.ok response) =>
        if generation = v.getsIssued then response.streams.map ChartSeries.ofStream else v.series
    | _ => v.series
  getsIssued := v.getsIssued
  requested? := v.requested?

/-- The listing that an effect sends. -/
def Effect.list? : Effect → Option ListCall
  | .list call => some call
  | _ => none

/-- The query that an effect sends. -/
def Effect.get? : Effect → Option GetCall
  | .get call => some call
  | _ => none

/-- Whether the timer is set after an effect. -/
def Effect.setTimer (armed : Bool) : Effect → Bool
  | .armRefetch _ => true
  | .cancelRefetch => false
  | _ => armed

/-- The effect sets the timer or stops it. -/
def Effect.onTimer : Effect → Bool
  | .armRefetch _ => true
  | .cancelRefetch => true
  | _ => false

/-- Effects that do not set the timer leave it set only where it was. -/
lemma armed_of_unarmed {es : List Effect} (h : ∀ delay, .armRefetch delay ∉ es) {armed : Bool}
    (hafter : es.foldl Effect.setTimer armed = true) : armed = true := by
  induction es generalizing armed with
  | nil => exact hafter
  | cons effect es ih =>
      have hrest := ih (fun delay hmem => h delay (List.mem_cons_of_mem _ hmem)) hafter
      cases effect with
      | armRefetch delay => exact absurd List.mem_cons_self (h delay)
      | cancelRefetch => cases hrest
      | _ => exact hrest

lemma foldl_setTimer_of_untouched {es : List Effect} (h : es.all (!·.onTimer) = true)
    (armed : Bool) : es.foldl Effect.setTimer armed = armed := by
  induction es generalizing armed with
  | nil => rfl
  | cons effect es ih =>
      rw [List.all_cons, Bool.and_eq_true] at h
      cases effect with
      | armRefetch delay => cases h.1
      | cancelRefetch => cases h.1
      | _ => exact ih h.2 armed

/-! ## Fetching -/

lemma startGet_of_none {v : View} (now : UInt64) (h : v.cascade.complete? = none) :
    (v.startGet now).1 = v ∧ (v.startGet now).2.1 = none := by
  simp [startGet, h]

lemma startGet_of_some {v : View} (now : UInt64) {metric host interface : String}
    (h : v.cascade.complete? = some (metric, host, interface)) :
    (∃ span, (v.startGet now).1
        = { v with getsIssued := v.getsIssued + 1, requested? := some span }) ∧
      (v.startGet now).2.1
        = some (.get ⟨v.getsIssued + 1, v.query metric host interface now⟩) := by
  simp [startGet, h]

/-- Issuing a query counts it and keeps its span, and leaves everything else alone. -/
lemma startGet_frame (v : View) (now : UInt64) :
    ∃ n span?, (v.startGet now).1 = { v with getsIssued := n, requested? := span? } := by
  cases h : v.cascade.complete? with
  | none => exact ⟨_, _, (startGet_of_none now h).1⟩
  | some choice =>
      obtain ⟨⟨span, hview⟩, -⟩ := startGet_of_some now h
      exact ⟨_, _, hview⟩

lemma fetch_view (v : View) (now : UInt64) : (v.fetch now).view = (v.startGet now).1 := by
  unfold fetch
  split <;> rename_i h <;> rw [h]

lemma fetch_effects (v : View) (now : UInt64) :
    (v.fetch now).effects
      = ((v.startGet now).2.1.map fun get => [.cancelRefetch, get]).getD [] := by
  unfold fetch
  split <;> rename_i h <;> rw [h] <;> rfl

lemma renderAndFetch_view (v : View) (now : UInt64) :
    (v.renderAndFetch now).view = (v.startGet now).1 := fetch_view v now

lemma renderAndFetch_effects (v : View) (now : UInt64) :
    (v.renderAndFetch now).effects = .render :: (v.fetch now).effects := rfl

lemma setWindow_view (v : View) (seconds : Int) (now : UInt64) :
    (v.setWindow seconds now).view
      = ({ v with window := seconds, zoom := v.zoom.reset }.startGet now).1 := rfl

lemma setWindow_effects (v : View) (seconds : Int) (now : UInt64) :
    (v.setWindow seconds now).effects
      = [.cancelRefetch, .render]
        ++ ({ v with window := seconds, zoom := v.zoom.reset }.startGet now).2.1.toList := rfl

/-- Issuing a query has no effect of a sort that queries are not of. -/
lemma startGet_filterMap {β : Type} (part : Effect → Option β)
    (hget : ∀ call, part (.get call) = none) (v : View) (now : UInt64) :
    (v.startGet now).2.1.toList.filterMap part = [] := by
  cases h : v.cascade.complete? with
  | none => rw [(startGet_of_none now h).2]; rfl
  | some choice =>
      rw [(startGet_of_some now h).2, Option.toList_some, List.filterMap_cons_none (hget _)]
      rfl

/-- Neither has fetching, which only stops the timer besides. -/
lemma fetch_filterMap {β : Type} (part : Effect → Option β) (hstop : part .cancelRefetch = none)
    (hget : ∀ call, part (.get call) = none) (v : View) (now : UInt64) :
    (v.fetch now).effects.filterMap part = [] := by
  have h := startGet_filterMap part hget v now
  rw [fetch_effects]
  cases hsent : (v.startGet now).2.1 with
  | none => rfl
  | some get =>
      rw [hsent] at h
      exact (List.filterMap_cons_none hstop).trans h

/-! ## The view after an event -/

/-- The step sends the query that a view asks for, and no other. -/
def Queries (v : View) (now : UInt64) (step : Step) : Prop :=
  step.view = (v.startGet now).1 ∧
    step.effects.filterMap Effect.get? = (v.startGet now).2.1.toList.filterMap Effect.get?

/-- What the log says does not matter for the query. -/
lemma Queries.with_log {v : View} {now : UInt64} {step : Step} (h : v.Queries now step)
    (log : List Log.Entry) : v.Queries now { step with log } := h

lemma queries_fetch (v : View) (now : UInt64) : v.Queries now (v.fetch now) := by
  refine ⟨fetch_view v now, ?_⟩
  rw [fetch_effects]
  cases (v.startGet now).2.1 with
  | none => rfl
  | some get => rfl

lemma queries_renderAndFetch (v : View) (now : UInt64) : v.Queries now (v.renderAndFetch now) :=
  queries_fetch v now

lemma queries_setWindow (v : View) (seconds : Int) (now : UInt64) :
    ({ v with window := seconds, zoom := v.zoom.reset } : View).Queries now
      (v.setWindow seconds now) :=
  ⟨rfl, rfl⟩

/-- **What an event does to the view.**  An event that fetches sends the query of the view it leads
to, and any other event sends none. -/
theorem handle_queries (v : View) (e : Event) (now : UInt64) :
    if v.fetches e then (v.changed e).Queries now (v.handle e now)
    else (v.handle e now).view = v.changed e ∧
      (v.handle e now).effects.filterMap Effect.get? = [] := by
  have hchoice : ∀ chosen : Cascade × Option ListCall,
      (v.afterChoice chosen).effects.filterMap Effect.get? = [] := by
    rintro ⟨c, _ | call⟩ <;> rfl
  cases e with
  | start => exact ⟨rfl, rfl⟩
  | metricSelected value => exact ⟨rfl, hchoice _⟩
  | hostSelected value => exact ⟨rfl, hchoice _⟩
  | interfaceSelected value =>
      have hchanged : v.changed (.interfaceSelected value)
          = { v with cascade := (v.cascade.chooseInterface? value).getD v.cascade } := rfl
      have hoffered : (v.cascade.chooseInterface? value).isSome
          = decide (value ∈ v.cascade.interface.options) := by
        by_cases hvalue : value ∈ v.cascade.interface.options <;>
          simp [Cascade.chooseInterface?, Selection.choose?, hvalue]
      rw [hchanged]
      unfold handle
      simp only [fetches, ← hoffered]
      cases v.cascade.chooseInterface? value with
      | none => exact ⟨rfl, rfl⟩
      | some cascade => exact queries_renderAndFetch { v with cascade } now
  | transformSelected transform => exact queries_renderAndFetch { v with transform } now
  | windowDoubled =>
      unfold handle
      by_cases hlimit : 2 * Window.displayed v.window ≤ Duration.limit
      · have hqueries := queries_setWindow v (2 * Window.displayed v.window) now
        simpa [fetches, changed, newWindow?, zoomOp?, Event.op?, Zoom.perform, hlimit]
          using hqueries
      · simp [fetches, changed, newWindow?, zoomOp?, Event.op?, Effect.get?, hlimit]
  | windowHalved => exact queries_setWindow v (max (Window.displayed v.window / 2) 1) now
  | windowEntered text =>
      unfold handle
      cases haccepted : Window.ofText (Text.trim text) with
      | error refusal =>
          simp [fetches, changed, newWindow?, zoomOp?, Event.op?, Effect.get?,
            Except.toOption, haccepted]
      | ok accepted =>
          have hqueries := (queries_setWindow v accepted.seconds now).with_log
            (accepted.log ++ (v.setWindow accepted.seconds now).log)
          simpa [fetches, changed, newWindow?, zoomOp?, Event.op?, Zoom.perform,
            Except.toOption, haccepted] using hqueries
  | zoomSelected range => exact ⟨rfl, rfl⟩
  | zoomOut => exact ⟨rfl, rfl⟩
  | refetch => exact queries_fetch v now
  | listCompleted level generation result =>
      unfold handle takeList
      by_cases hready : (v.cascade.apply level generation result).outcome = .ready
      · have hqueries := queries_renderAndFetch
          (v.changed (.listCompleted level generation result)) now
        simp only [fetches, hready, decide_true, if_true]
        exact hqueries.with_log _
      · simp only [fetches, hready, decide_false, Bool.false_eq_true, if_false]
        split
        · exact ⟨rfl, rfl⟩
        · exact ⟨rfl, rfl⟩
        · exact ⟨rfl, rfl⟩
        · exact ⟨rfl, rfl⟩
        · contradiction
  | getCompleted generation result =>
      unfold handle takeGet
      by_cases hlatest : generation = v.getsIssued
      · cases result <;>
          simp [fetches, changed, newWindow?, zoomOp?, Event.op?, Effect.get?,
            hlatest]
      · cases result <;>
          simp [fetches, changed, newWindow?, zoomOp?, Event.op?, hlatest]

lemma queries_of_fetches {v : View} {e : Event} (h : v.fetches e) (now : UInt64) :
    (v.changed e).Queries now (v.handle e now) := by
  simpa [h] using handle_queries v e now

lemma handle_of_not_fetches {v : View} {e : Event} (h : ¬ v.fetches e) (now : UInt64) :
    (v.handle e now).view = v.changed e ∧
      (v.handle e now).effects.filterMap Effect.get? = [] := by
  simpa [h] using handle_queries v e now

/-- Everything but the query that an event may lead to is as in `changed`. -/
theorem handle_view (v : View) (e : Event) (now : UInt64) :
    ∃ n span?, (v.handle e now).view
      = { v.changed e with getsIssued := n, requested? := span? } := by
  by_cases h : v.fetches e
  · rw [(queries_of_fetches h now).1]
    exact startGet_frame _ now
  · exact ⟨_, _, (handle_of_not_fetches h now).1⟩

lemma handle_cascade (v : View) (e : Event) (now : UInt64) :
    (v.handle e now).view.cascade
      = (e.op?.map fun op => (v.cascade.perform op).1).getD v.cascade := by
  obtain ⟨n, span?, hview⟩ := handle_view v e now
  rw [hview]
  rfl

lemma handle_zoom (v : View) (e : Event) (now : UInt64) :
    (v.handle e now).view.zoom = ((v.zoomOp? e).map v.zoom.perform).getD v.zoom := by
  obtain ⟨n, span?, hview⟩ := handle_view v e now
  rw [hview]
  rfl

lemma handle_transform (v : View) (e : Event) (now : UInt64) :
    (v.handle e now).view.transform = (v.changed e).transform := by
  obtain ⟨n, span?, hview⟩ := handle_view v e now
  rw [hview]

/-! ## The queries an event sends -/

/-- What is read off one thing only is found where that thing is. -/
lemma mem_filterMap_iff {α β : Type} {part : α → Option β} {make : β → α}
    (h : ∀ a x, part a = some x ↔ a = make x) {xs : List α} {x : β} :
    x ∈ xs.filterMap part ↔ make x ∈ xs := by
  simp only [List.mem_filterMap, h, exists_eq_right]

lemma mem_gets {es : List Effect} {call : GetCall} :
    call ∈ es.filterMap Effect.get? ↔ .get call ∈ es := by
  refine mem_filterMap_iff fun effect call => ?_
  cases effect <;> simp [Effect.get?]

/-- An event sends no query, or one with the next number for what is chosen after it. -/
theorem handle_gets (v : View) (e : Event) (now : UInt64) :
    (v.handle e now).effects.filterMap Effect.get? = [] ∧
        (v.handle e now).view.getsIssued = v.getsIssued ∧
        ((v.handle e now).view.cascade.complete? = none ∨ v.fetches e = false) ∨
      ∃ metric host interface,
        (v.handle e now).view.cascade.complete? = some (metric, host, interface) ∧
        v.fetches e = true ∧ (v.handle e now).view.getsIssued = v.getsIssued + 1 ∧
        (v.handle e now).effects.filterMap Effect.get?
          = [⟨v.getsIssued + 1, (v.handle e now).view.query metric host interface now⟩] := by
  by_cases hfetches : v.fetches e
  · obtain ⟨hview, hgets⟩ := queries_of_fetches hfetches now
    cases hcomplete : (v.changed e).cascade.complete? with
    | none =>
        obtain ⟨hsame, hnone⟩ := startGet_of_none now hcomplete
        refine .inl ⟨?_, ?_, .inl ?_⟩
        · rw [hgets, hnone]
          rfl
        · rw [hview, hsame]
          rfl
        · rw [hview, hsame, hcomplete]
    | some choice =>
        obtain ⟨metric, host, interface⟩ := choice
        obtain ⟨⟨span, hsame⟩, hsome⟩ := startGet_of_some now hcomplete
        refine .inr ⟨metric, host, interface, ?_, hfetches, ?_, ?_⟩
        · rw [hview, hsame]
          exact hcomplete
        · rw [hview, hsame]
          rfl
        · rw [hgets, hsome, hview, hsame]
          rfl
  · obtain ⟨hview, hgets⟩ := handle_of_not_fetches hfetches now
    refine .inl ⟨hgets, ?_, .inr (Bool.eq_false_iff.2 hfetches)⟩
    rw [hview]
    rfl

/-- A query that is sent carries the new count, and is for what is chosen with it. -/
lemma sent_query {v : View} {e : Event} {now : UInt64} {call : GetCall}
    (h : .get call ∈ (v.handle e now).effects) :
    call.generation = (v.handle e now).view.getsIssued ∧ ∃ metric host interface,
      (v.handle e now).view.cascade.complete? = some (metric, host, interface) ∧
      call.request = (v.handle e now).view.query metric host interface now := by
  rw [← mem_gets] at h
  rcases handle_gets v e now with
    ⟨hnone, -, -⟩ | ⟨metric, host, interface, hcomplete, -, hissued, hgets⟩
  · rw [hnone] at h
    cases h
  · rw [hgets, List.mem_singleton] at h
    subst h
    exact ⟨hissued.symm, metric, host, interface, hcomplete, rfl⟩

lemma getsIssued_le_handle (v : View) (e : Event) (now : UInt64) :
    v.getsIssued ≤ (v.handle e now).view.getsIssued := by
  rcases handle_gets v e now with ⟨-, hsame, -⟩ | ⟨_, _, _, -, -, hnext, -⟩
  · omega
  · omega

/-! ## The listings an event sends -/

/-- The listings that an event sends are those that its operation hands out. -/
theorem handle_lists (v : View) (e : Event) (now : UInt64) :
    (v.handle e now).effects.filterMap Effect.list?
      = (e.op?.bind fun op => (v.cascade.perform op).2).toList := by
  have hchoice : ∀ chosen : Cascade × Option ListCall,
      (v.afterChoice chosen).effects.filterMap Effect.list? = chosen.2.toList := by
    rintro ⟨c, _ | call⟩ <;> rfl
  have hquery := startGet_filterMap Effect.list? fun _ => rfl
  have hfetch := fetch_filterMap Effect.list? rfl fun _ => rfl
  cases e with
  | start => rfl
  | metricSelected value => exact hchoice _
  | hostSelected value => exact hchoice _
  | interfaceSelected value =>
      unfold handle
      dsimp only
      split
      · rfl
      · exact hfetch _ now
  | transformSelected transform => exact hfetch _ now
  | windowDoubled =>
      unfold handle
      dsimp only
      split
      · exact hquery _ now
      · rfl
  | windowHalved => exact hquery _ now
  | windowEntered text =>
      unfold handle
      dsimp only
      split
      · rfl
      · exact hquery _ now
  | zoomSelected range => rfl
  | zoomOut => rfl
  | refetch => exact hfetch v now
  | listCompleted level generation result =>
      unfold handle takeList
      dsimp only
      simp only [Event.op?, Option.bind_some, Cascade.perform]
      split <;> rename_i h <;> rw [h]
      · rfl
      · rfl
      · rfl
      · rfl
      · exact hfetch _ now
  | getCompleted generation result =>
      unfold handle takeGet
      dsimp only
      split
      · rfl
      · cases result <;> rfl

/-! ## What an event means for fetching -/

/-- The step sends a query for what is chosen; the timer is stopped before. -/
def Fetched (v : View) (now : UInt64) (step : Step) : Prop :=
  ∃ metric host interface, step.view.cascade.complete? = some (metric, host, interface) ∧
    step.view.getsIssued = v.getsIssued + 1 ∧
    ∃ call : GetCall, call = ⟨v.getsIssued + 1, step.view.query metric host interface now⟩ ∧
      (step.effects = [.cancelRefetch, .get call] ∨
        step.effects = [.render, .cancelRefetch, .get call] ∨
        step.effects = [.cancelRefetch, .render, .get call])

/-- The step takes the outcome of the latest query and sets the timer. -/
def Rearmed (v : View) (e : Event) (step : Step) : Prop :=
  (∃ result, e = .getCompleted v.getsIssued result) ∧ step.view.getsIssued = v.getsIssued ∧
    (step.effects = [.render, .armRefetch refetchDelay] ∨
      ∃ message, step.effects = [.notice message, .armRefetch refetchDelay])

/-- The step sends no query and sets no timer.  It stops the timer only where something is not
chosen, and there alone it may be a refetch. -/
structure Quiet (v : View) (e : Event) (step : Step) : Prop where
  getsIssued : step.view.getsIssued = v.getsIssued
  gets : step.effects.filterMap Effect.get? = []
  arms : ∀ delay, .armRefetch delay ∉ step.effects
  complete : step.view.cascade.complete?.isSome →
    e ≠ .refetch ∧ ∀ armed, step.effects.foldl Effect.setTimer armed = armed
  outcome : ∀ result, e ≠ .getCompleted v.getsIssued result

/-- The timer is set after a quiet step only if it was set before. -/
lemma Quiet.timer {v : View} {e : Event} {step : Step} (h : Quiet v e step) {armed : Bool}
    (hafter : step.effects.foldl Effect.setTimer armed = true) : armed = true :=
  armed_of_unarmed h.arms hafter

/-- A step without effects on the timer that is no refetch and sends no query is quiet. -/
lemma Quiet.of_effects {v : View} {e : Event} {step : Step}
    (hissued : step.view.getsIssued = v.getsIssued)
    (hgets : step.effects.filterMap Effect.get? = [])
    (htimer : step.effects.all (!·.onTimer) = true) (hrefetch : e ≠ .refetch)
    (houtcome : ∀ result, e ≠ .getCompleted v.getsIssued result) : Quiet v e step where
  getsIssued := hissued
  gets := hgets
  arms := fun delay hmem => by simpa [Effect.onTimer] using List.all_eq_true.1 htimer _ hmem
  complete := fun _ => ⟨hrefetch, foldl_setTimer_of_untouched htimer⟩
  outcome := houtcome

/-- Fetching sends a query for what is chosen, or does nothing. -/
lemma fetch_cases (v : View) (now : UInt64) :
    (∃ metric host interface, v.cascade.complete? = some (metric, host, interface) ∧
      (v.fetch now).view.cascade = v.cascade ∧
      (v.fetch now).view.getsIssued = v.getsIssued + 1 ∧
      (v.fetch now).effects = [.cancelRefetch, .get ⟨v.getsIssued + 1,
        (v.fetch now).view.query metric host interface now⟩]) ∨
    v.cascade.complete? = none ∧ (v.fetch now).view = v ∧ (v.fetch now).effects = [] := by
  cases h : v.cascade.complete? with
  | none =>
      obtain ⟨hview, hget⟩ := startGet_of_none now h
      exact .inr ⟨rfl, by rw [fetch_view, hview], by rw [fetch_effects, hget]; rfl⟩
  | some choice =>
      obtain ⟨metric, host, interface⟩ := choice
      obtain ⟨⟨span, hview⟩, hget⟩ := startGet_of_some now h
      refine .inl ⟨metric, host, interface, rfl, ?_, ?_, ?_⟩
      · rw [fetch_view, hview]
      · rw [fetch_view, hview]
      · rw [fetch_effects, fetch_view, hview, hget]
        rfl

/-- Drawing and then fetching sends a query, or is quiet. -/
lemma turn_renderAndFetch {v w : View} {e : Event} (now : UInt64)
    (hissued : w.getsIssued = v.getsIssued)
    (houtcome : ∀ result, e ≠ .getCompleted v.getsIssued result) (hrefetch : e ≠ .refetch) :
    Fetched v now (w.renderAndFetch now) ∨ Quiet v e (w.renderAndFetch now) := by
  rcases fetch_cases w now with ⟨metric, host, interface, hchosen, hcascade, hcount, heffects⟩ | h
  · refine .inl ⟨metric, host, interface, ?_, ?_, _, rfl, .inr (.inl ?_)⟩
    · rw [renderAndFetch_view, ← fetch_view, hcascade, hchosen]
    · rw [renderAndFetch_view, ← fetch_view, hcount, hissued]
    · rw [renderAndFetch_effects, heffects, renderAndFetch_view, ← fetch_view, hissued]
  · obtain ⟨-, hview, heffects⟩ := h
    refine .inr (.of_effects ?_ ?_ ?_ hrefetch houtcome)
    · rw [renderAndFetch_view, ← fetch_view, hview, hissued]
    · rw [renderAndFetch_effects, heffects]; rfl
    · rw [renderAndFetch_effects, heffects]; rfl

/-- Setting the window sends a query, or stops the timer where something is not chosen. -/
lemma turn_setWindow (v : View) {e : Event} (seconds : Int) (now : UInt64)
    (houtcome : ∀ result, e ≠ .getCompleted v.getsIssued result) :
    Fetched v now (v.setWindow seconds now) ∨ Quiet v e (v.setWindow seconds now) := by
  have hissued : ({ v with window := seconds, zoom := v.zoom.reset } : View).getsIssued
      = v.getsIssued := rfl
  rw [← hissued] at houtcome
  rcases fetch_cases { v with window := seconds, zoom := v.zoom.reset } now with
    ⟨metric, host, interface, hchosen, hcascade, hcount, -⟩ | ⟨hnone, hview, -⟩
  · obtain ⟨⟨span, hview⟩, hget⟩ := startGet_of_some now hchosen
    refine .inl ⟨metric, host, interface, ?_, ?_, _, rfl, .inr (.inr ?_)⟩
    · rw [setWindow_view, ← fetch_view, hcascade, hchosen]
    · rw [setWindow_view, ← fetch_view, hcount]
    · rw [setWindow_effects, setWindow_view, hget, hview]
      rfl
  · have hget := (startGet_of_none now hnone).2
    have heffects : (v.setWindow seconds now).effects = [.cancelRefetch, .render] := by
      rw [setWindow_effects, hget]; rfl
    have hincomplete : (v.setWindow seconds now).view.cascade.complete? = none := by
      rw [setWindow_view, ← fetch_view, hview]; exact hnone
    refine .inr ⟨?_, ?_, ?_, ?_, houtcome⟩
    · rw [setWindow_view, ← fetch_view, hview]
    · rw [heffects]; rfl
    · simp [heffects]
    · rw [hincomplete]
      exact fun h => nomatch h

/-- What the log says does not matter for fetching. -/
lemma turn_with_log {v : View} {e : Event} {now : UInt64} {step : Step} (log : List Log.Entry)
    (h : Fetched v now step ∨ Quiet v e step) :
    Fetched v now { step with log } ∨ Quiet v e { step with log } := by
  rcases h with h | h
  · exact .inl h
  · exact .inr ⟨h.getsIssued, h.gets, h.arms, h.complete, h.outcome⟩

lemma quiet_afterChoice (v : View) {e : Event} (chosen : Cascade × Option ListCall)
    (hrefetch : e ≠ .refetch) (houtcome : ∀ result, e ≠ .getCompleted v.getsIssued result) :
    Quiet v e (v.afterChoice chosen) := by
  obtain ⟨c, _ | call⟩ := chosen
  · exact .of_effects rfl rfl rfl hrefetch houtcome
  · exact .of_effects rfl rfl rfl hrefetch houtcome

lemma rearmed_outcome (v : View) (result : Except StoreError GetResponse) (now : UInt64) :
    Rearmed v (.getCompleted v.getsIssued result)
      (v.handle (.getCompleted v.getsIssued result) now) := by
  unfold handle takeGet
  simp only [ne_eq, not_true_eq_false, if_false]
  cases result with
  | ok response => exact ⟨⟨_, rfl⟩, rfl, .inl rfl⟩
  | error err => exact ⟨⟨_, rfl⟩, rfl, .inr ⟨_, rfl⟩⟩

/-- **Every event sends a query, or takes the outcome of the latest one and sets the timer, or is
quiet.** -/
theorem turn_handle (v : View) (e : Event) (now : UInt64) :
    Fetched v now (v.handle e now) ∨ Rearmed v e (v.handle e now) ∨ Quiet v e (v.handle e now) := by
  have hturn : ∀ {step : Step}, (Fetched v now step ∨ Quiet v e step) →
      Fetched v now step ∨ Rearmed v e step ∨ Quiet v e step := fun h => h.imp_right .inr
  cases e with
  | start => exact .inr (.inr (.of_effects rfl rfl rfl nofun nofun))
  | metricSelected value => exact .inr (.inr (quiet_afterChoice v _ nofun nofun))
  | hostSelected value => exact .inr (.inr (quiet_afterChoice v _ nofun nofun))
  | interfaceSelected value =>
      unfold handle
      dsimp only
      split
      · exact .inr (.inr (.of_effects rfl rfl rfl nofun nofun))
      · exact hturn (turn_renderAndFetch now rfl nofun nofun)
  | transformSelected transform => exact hturn (turn_renderAndFetch now rfl nofun nofun)
  | windowDoubled =>
      unfold handle
      dsimp only
      split
      · exact hturn (turn_setWindow v _ now nofun)
      · exact .inr (.inr (.of_effects rfl rfl rfl nofun nofun))
  | windowHalved => exact hturn (turn_setWindow v _ now nofun)
  | windowEntered text =>
      unfold handle
      dsimp only
      split
      · exact .inr (.inr (.of_effects rfl rfl rfl nofun nofun))
      · rename_i accepted _
        exact hturn (turn_with_log _ (turn_setWindow v accepted.seconds now nofun))
  | zoomSelected range => exact .inr (.inr (.of_effects rfl rfl rfl nofun nofun))
  | zoomOut => exact .inr (.inr (.of_effects rfl rfl rfl nofun nofun))
  | refetch =>
      have hfetch : v.handle .refetch now = v.fetch now := rfl
      rw [hfetch]
      rcases fetch_cases v now with
        ⟨metric, host, interface, hchosen, hcascade, hcount, heffects⟩ | ⟨hnone, hview, heffects⟩
      · refine .inl ⟨metric, host, interface, ?_, hcount, _, rfl, .inl heffects⟩
        rw [hcascade, hchosen]
      · refine .inr (.inr ⟨?_, ?_, ?_, ?_, nofun⟩)
        · rw [hview]
        · rw [heffects]; rfl
        · simp [heffects]
        · intro hcomplete
          rw [hview, hnone] at hcomplete
          cases hcomplete
  | listCompleted level generation result =>
      unfold handle takeList
      dsimp only
      split
      · exact .inr (.inr (.of_effects rfl rfl rfl nofun nofun))
      · exact .inr (.inr (.of_effects rfl rfl rfl nofun nofun))
      · exact .inr (.inr (.of_effects rfl rfl rfl nofun nofun))
      · exact .inr (.inr (.of_effects rfl rfl rfl nofun nofun))
      · exact hturn (turn_with_log _ (turn_renderAndFetch now rfl nofun nofun))
  | getCompleted generation result =>
      by_cases hlatest : generation = v.getsIssued
      · subst hlatest
        exact .inr (.inl (rearmed_outcome v result now))
      · unfold handle takeGet
        simp only [hlatest, ne_eq, not_false_eq_true, if_true]
        refine .inr (.inr (.of_effects rfl rfl rfl nofun fun result h => hlatest ?_))
        cases h
        rfl

end Meterboard.View
