import Meterboard.Proofs.Cascade.Names
import Meterboard.Proofs.Cascade.Scope
import Meterboard.Proofs.View.Session

/-!
# What a query asks for

A query is text and numbers: a variable without escapes, a transform, and the start of the window
in 64 bits.  What is chosen is a metric, a host, an interface, and a window in seconds that nothing
bounds.  This file says that the one stands for the other.

**The window.**  It is positive in every view (`newWindow?_pos`), so the start of a query is the
time of the clock less the window, or 1970 if that is earlier: `windowStart_toNat` is an equation
over the integers, so neither the length in milliseconds nor the difference wraps around.

**The variable.**  `View.Askable` adds to `Cascade.Askable` that the window is positive.  It holds
of whatever a view is told, in any order, outcomes included that nobody asked for
(`askable_of_told`), as long as the preferences are such names.

**Exactness.**  `query_of_view` says that every query is for the view that sends it, and that an
event sends one, and never more, **if and only if** it is one of those that fetch (`View.fetches`)
and everything is chosen after it.
-/

namespace Meterboard

/-! ## Windows -/

namespace Window

/-- What is shown of a positive window is positive. -/
lemma displayed_pos {seconds : Int} (h : 0 < seconds) : 0 < displayed seconds := by
  simp only [displayed]
  split
  · split
    · assumption
    · exact h
  · exact h

/-- A window that was accepted is positive. -/
lemma ofText_pos {s : String} {accepted : Accepted} (h : ofText s = .ok accepted) :
    0 < accepted.seconds := by
  simp only [ofText] at h
  split at h
  · split at h
    · rename_i hpos
      cases h
      exact hpos
    · cases h
  · split at h
    · rename_i hpos
      cases h
      exact hpos
    · cases h
  · cases h

lemma millis_toNat (seconds : Int) :
    (millis seconds).toNat = min (seconds.toNat * 1000) (UInt64.size - 1) := by
  have hfits : min (seconds.toNat * 1000) (UInt64.size - 1) < UInt64.size := by
    simp only [UInt64.size]
    omega
  exact UInt64.toNat_ofNat_of_lt hfits

end Window

namespace View

/-- The start of a window, over the integers. -/
lemma windowStart_toNat {window : Int} (h : 0 < window) (now : UInt64) :
    ((windowStart window now).toNat : Int) = max 0 (now.toNat - 1000 * window) := by
  have hnow : now.toNat < UInt64.size := now.toNat_lt
  have hfits : now.toNat - (Window.millis window).toNat < UInt64.size := by omega
  have hstart : (windowStart window now).toNat = now.toNat - (Window.millis window).toNat :=
    UInt64.toNat_ofNat_of_lt hfits
  rw [hstart, Window.millis_toNat]
  simp only [UInt64.size] at hnow ⊢
  omega

/-- Every window that an event sets is positive. -/
lemma newWindow?_pos {v : View} {e : Event} {seconds : Int} (h : 0 < v.window)
    (hnew : v.newWindow? e = some seconds) : 0 < seconds := by
  have hdisplayed := Window.displayed_pos h
  cases e with
  | windowDoubled =>
      simp only [newWindow?] at hnew
      split at hnew
      · cases hnew
        omega
      · cases hnew
  | windowHalved =>
      cases hnew
      omega
  | windowEntered text =>
      obtain ⟨accepted, haccepted, rfl⟩ := Option.map_eq_some_iff.1 hnew
      cases htext : Window.ofText (Text.trim text) with
      | error refusal => simp [htext, Except.toOption] at haccepted
      | ok read =>
          obtain rfl : read = accepted := by simpa [htext, Except.toOption] using haccepted
          exact Window.ofText_pos htext
  | _ => cases hnew

/-! ## Views that can be asked for -/

end View

/-- The preferences can be carried by a variable. -/
structure ViewSettings.Askable (settings : ViewSettings) : Prop where
  metric : ∀ value, settings.metric? = some value → MetricName value
  host : ∀ value, settings.host? = some value → LabelValue value
  interface : ∀ value, settings.interface? = some value → LabelValue value

namespace View

/-- What a variable can carry is chosen, in a window that is positive. -/
structure Askable (v : View) : Prop where
  cascade : v.cascade.Askable
  window : 0 < v.window

lemma askable_ofSettings {settings : ViewSettings} (h : settings.Askable) :
    (ofSettings settings).Askable where
  cascade := Cascade.askable_start h.metric h.host h.interface
  window := by
    show 0 < max settings.window 1
    omega

lemma Askable.changed {v : View} (h : v.Askable) (e : Event) : (v.changed e).Askable where
  cascade := by
    show ((e.op?.map fun op => (v.cascade.perform op).1).getD v.cascade).Askable
    cases e.op? with
    | none => exact h.cascade
    | some op => exact Cascade.askable_perform h.cascade op
  window := by
    show 0 < (v.newWindow? e).getD v.window
    cases hnew : v.newWindow? e with
    | none => exact h.window
    | some seconds => exact newWindow?_pos h.window hnew

lemma Askable.handle {v : View} (h : v.Askable) (e : Event) (now : UInt64) :
    (v.handle e now).view.Askable := by
  obtain ⟨n, span?, hview⟩ := handle_view v e now
  rw [hview]
  exact ⟨(h.changed e).cascade, (h.changed e).window⟩

/-- Whatever a view is told, it can be asked for. -/
theorem askable_of_told {settings : ViewSettings} (h : settings.Askable)
    {seen : List (View × Event × UInt64)} {v : View} (run : Run (told settings) seen v) :
    v.Askable :=
  run.invariant (askable_ofSettings h) fun _ e hv _ => hv.handle e.1 e.2

/-! ## The query of an event -/

/-- The query is for what is chosen: its variable is read as the metric with the two labels, its
only change is the transform, it starts where the window does, and it is limited by the number of
variables alone. -/
structure AsksFor (v : View) (now : UInt64) (metric host interface : String)
    (request : GetRequest) : Prop where
  chosen : v.cascade.complete? = some (metric, host, interface)
  named : ∃ id, Identifier.parse? request.name = some id ∧ id.name = metric ∧
    id.labels.entries = [(Identifier.hostLabel, host), (Identifier.interfaceLabel, interface)]
  transform : request.mutations = [⟨v.transform, none, none⟩]
  start : ∃ start, request.minTimestamp? = some start ∧
    (start.toNat : Int) = max 0 (now.toNat - 1000 * v.window)
  unended : request.maxTimestamp? = none
  limited : request.maxVariables? = some defaultMaxVariables
  unlimited : request.maxValues? = none

lemma Askable.asksFor {v : View} (h : v.Askable) (now : UInt64) {metric host interface : String}
    (hcomplete : v.cascade.complete? = some (metric, host, interface)) :
    v.AsksFor now metric host interface (v.query metric host interface now) where
  chosen := hcomplete
  named := h.cascade.parse? hcomplete
  transform := rfl
  start := ⟨_, rfl, windowStart_toNat h.window now⟩
  unended := rfl
  limited := rfl
  unlimited := rfl

/-- **Every query is for the view that sends it**, whatever came before.  It carries the next
number, and an event sends one, and only one, if and only if it fetches and everything is chosen
after it. -/
theorem query_of_view {settings : ViewSettings} (hsettings : settings.Askable)
    {seen : List (View × Event × UInt64)} {v : View} (run : Run (told settings) seen v)
    (e : Event) (now : UInt64) :
    (∀ call, .get call ∈ (v.handle e now).effects → call.generation = v.getsIssued + 1 ∧
      ∃ metric host interface,
        (v.handle e now).view.AsksFor now metric host interface call.request) ∧
    ((v.handle e now).effects.filterMap Effect.get?).length
      = if v.fetches e ∧ (v.handle e now).view.cascade.complete?.isSome then 1 else 0 := by
  have haskable := (askable_of_told hsettings run).handle e now
  rcases handle_gets v e now with
    ⟨hnone, -, hidle⟩ | ⟨metric, host, interface, hcomplete, hf, -, hgets⟩
  · refine ⟨?_, ?_⟩
    · intro call hcall
      rw [← mem_gets, hnone] at hcall
      cases hcall
    · have hnot : ¬ (v.fetches e ∧ (v.handle e now).view.cascade.complete?.isSome) := by
        rcases hidle with h | h <;> simp [h]
      rw [hnone, if_neg hnot, List.length_nil]
  · refine ⟨?_, ?_⟩
    · intro call hcall
      rw [← mem_gets, hgets, List.mem_singleton] at hcall
      subst hcall
      exact ⟨rfl, metric, host, interface, haskable.asksFor now hcomplete⟩
    · rw [hgets, if_pos ⟨hf, by rw [hcomplete]; rfl⟩, List.length_singleton]

/-- A metric and a host are preferred, and a window of a minute. -/
def preferred : ViewSettings := ⟨"/n", some "m", some "h", none, 60, .rate⟩

/-- The metric and the host are found, and their interfaces are asked for. -/
def found : List (Event × UInt64) :=
  [(.start, 0), (.listCompleted .top 1 Cascade.oneInterface, 0)]

/-- The interfaces arrive within a minute of 1970, and a query is sent for one of them. -/
theorem query_of_view_found :
    ∃ call,
      .get call ∈ (((told preferred).after (told preferred).start found).handle
        (.listCompleted .interfaces 1 Cascade.oneInterface) 59000).effects ∧
      call.generation = 1 ∧ ∃ metric host interface,
        (((told preferred).after (told preferred).start found).handle
          (.listCompleted .interfaces 1 Cascade.oneInterface) 59000).view.AsksFor 59000
            metric host interface call.request := by
  have hsettings : preferred.Askable := by
    refine ⟨?_, ?_, ?_⟩
    · rintro value ⟨⟩
      decide
    · rintro value ⟨⟩
      decide
    · nofun
  have hrun := (Run.start (S := told preferred)).extend found fun _ _ => trivial
  obtain ⟨hqueries, hlength⟩ :=
    query_of_view hsettings hrun (.listCompleted .interfaces 1 Cascade.oneInterface) 59000
  rw [if_pos (by decide)] at hlength
  obtain ⟨call, hcall⟩ := List.length_eq_one_iff.1 hlength
  have hsent := mem_gets.1 (hcall ▸ List.mem_singleton_self call)
  exact ⟨call, hsent, hqueries call hsent⟩

end View

end Meterboard
