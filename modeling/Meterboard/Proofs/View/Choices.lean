import Meterboard.Proofs.Cascade.Listing
import Meterboard.Proofs.View.Session

/-!
# Choices stay

A view is refreshed again and again, its listings fail or come too late, and the user chooses
something else in another selector.  A choice outlives all of that.  It gives way to another choice
of the user, to a listing that does not offer it any more, and, for an interface, to the loss of the
metric or the host.

* `part_perform` — what one operation does to one selection of a cascade.
* `View.Unseats` — the three things that a choice gives way to.
* `unseats_of_changed` — one event: nothing else changes a choice.
* `choice_stays` — a run: what was preferred or chosen stays as long as none of the three happens.
-/

namespace Meterboard

namespace Cascade

/-! ## One operation -/

/-- The user's choice of a value. -/
def Part.choice : Part → String → Op
  | .metric => .chooseMetric
  | .host => .chooseHost
  | .interface => .chooseInterface

/-- Asking for interfaces settles metric and host by a choice or by a listing, or not at all. -/
lemma part_retargets {c d : Cascade} {op : Op} (h : c.Retargets op d) (p : Part) :
    (∃ value ∈ (c.part p).options, op = p.choice value ∧
      d.part p = ⟨(c.part p).options, some value⟩) ∨
    (∃ r, op = .apply p.level (c.issued p.level) (.ok r) ∧
      d.part p = (c.part p).replace (p.values r)) ∨
    d.part p = c.part p := by
  cases h with
  | again => exact .inr (.inr rfl)
  | @metric value hvalue =>
      cases p with
      | metric => exact .inl ⟨value, hvalue, rfl, rfl⟩
      | host => exact .inr (.inr rfl)
      | interface => exact .inr (.inr rfl)
  | @host value hvalue =>
      cases p with
      | metric => exact .inr (.inr rfl)
      | host => exact .inl ⟨value, hvalue, rfl, rfl⟩
      | interface => exact .inr (.inr rfl)
  | @listing r =>
      cases p with
      | metric => exact .inr (.inl ⟨r, rfl, by rw [Part.values_metric]; rfl⟩)
      | host => exact .inr (.inl ⟨r, rfl, rfl⟩)
      | interface => exact .inr (.inr rfl)

/-- **What one operation does to one selection**: a choice is made in it, a listing of its level is
taken, the interfaces are cleared, or nothing. -/
lemma part_perform (c : Cascade) (op : Op) (p : Part) :
    (∃ value ∈ (c.part p).options, op = p.choice value ∧
      (c.perform op).1.part p = ⟨(c.part p).options, some value⟩) ∨
    (∃ r, op = .apply p.level (c.issued p.level) (.ok r) ∧
      (c.perform op).1.part p = (c.part p).replace (p.values r)) ∨
    (p = .interface ∧ (c.perform op).1.scope? = none) ∨
    (c.perform op).1.part p = c.part p := by
  have hmoves := moves_perform c op
  generalize c.perform op = moved at hmoves
  cases hmoves with
  | refused _ => exact .inr (.inr (.inr rfl))
  | root => exact .inr (.inr (.inr (by cases p <;> rfl)))
  | @asked _ d _ hd _ =>
      have hsame : Cascade.part { d with interfacesIssued := d.interfacesIssued + 1 } p
          = d.part p := by cases p <;> rfl
      rw [hsame]
      exact (part_retargets hd p).imp_right (.imp_right .inr)
  | @cleared _ d hd hnone =>
      cases p with
      | metric => exact (part_retargets hd .metric).imp_right (.imp_right .inr)
      | host => exact (part_retargets hd .host).imp_right (.imp_right .inr)
      | interface => exact .inr (.inr (.inl ⟨rfl, hnone⟩))
  | @picked value hvalue =>
      cases p with
      | metric => exact .inr (.inr (.inr rfl))
      | host => exact .inr (.inr (.inr rfl))
      | interface => exact .inl ⟨value, hvalue, rfl, rfl⟩
  | @listed r =>
      cases p with
      | metric => exact .inr (.inr (.inr rfl))
      | host => exact .inr (.inr (.inr rfl))
      | interface => exact .inr (.inl ⟨r, rfl, rfl⟩)

/-- A value that is offered can be chosen. -/
lemma perform_choice {c : Cascade} {p : Part} {value : String}
    (h : value ∈ (c.part p).options) :
    (c.perform (p.choice value)).1.part p = ⟨(c.part p).options, some value⟩ := by
  cases p with
  | metric =>
      have hmetric : value ∈ c.metric.options := h
      have hchosen : c.perform (.chooseMetric value)
          = { c with metric := ⟨c.metric.options, some value⟩ }.refreshInterfaces := by
        simp [perform, chooseMetric, Selection.choose?, hmetric]
      exact hchosen ▸ (refreshInterfaces_top _).1
  | host =>
      have hhost : value ∈ c.host.options := h
      have hchosen : c.perform (.chooseHost value)
          = { c with host := ⟨c.host.options, some value⟩ }.refreshInterfaces := by
        simp [perform, chooseHost, Selection.choose?, hhost]
      exact hchosen ▸ (refreshInterfaces_top _).2
  | interface =>
      have hinterface : value ∈ c.interface.options := h
      simp [Part.choice, perform, chooseInterface?, Selection.choose?, part, hinterface]

end Cascade

namespace View

open Cascade (Part)

/-! ## One event -/

/-- The choice of a selection. -/
def chosen? (v : View) (p : Part) : Option String := (v.cascade.part p).current?

/-- The choice that a view starts with, before anything is offered. -/
def preferred? (s : ViewSettings) : Part → Option String
  | .metric => s.metric?
  | .host => s.host?
  | .interface => s.interface?

/-- The user selects a value. -/
def Event.choice : Part → String → Event
  | .metric => .metricSelected
  | .host => .hostSelected
  | .interface => .interfaceSelected

lemma Event.eq_choice {e : Event} {p : Part} {value : String} (h : e.op? = some (p.choice value)) :
    e = .choice p value := by
  cases p <;> cases e <;> cases h <;> rfl

/-- What the choice of a selection gives way to, when an event happens to the view at a time. -/
inductive Unseats (v : View) (e : Event) (now : UInt64) : Part → Option String → Prop
  /-- Another value is selected that is offered. -/
  | selected {p : Part} {old? : Option String} {value : String} :
      e = .choice p value → value ∈ (v.cascade.part p).options → some value ≠ old? →
      Unseats v e now p old?
  /-- The latest listing of the level arrives, and does not offer the choice. -/
  | listed {p : Part} {old? : Option String} {r : ListResponse} :
      e = .listCompleted p.level (v.cascade.issued p.level) (.ok r) →
      (∀ value, old? = some value → ¬ p.Offered r value) → Unseats v e now p old?
  /-- There is no metric or no host after the event, which unseats an interface. -/
  | lost {old? : Option String} :
      (v.handle e now).view.chosen? .metric = none ∨ (v.handle e now).view.chosen? .host = none →
      Unseats v e now .interface old?

/-- **Nothing else changes a choice.** -/
lemma unseats_of_changed {v : View} {e : Event} {now : UInt64} {p : Part}
    (h : (v.handle e now).view.chosen? p ≠ v.chosen? p) : Unseats v e now p (v.chosen? p) := by
  have hcascade := handle_cascade v e now
  cases hop : e.op? with
  | none =>
      rw [hop] at hcascade
      exact absurd (by rw [chosen?, hcascade]; rfl) h
  | some op =>
      rw [hop] at hcascade
      have hafter : (v.handle e now).view.cascade = (v.cascade.perform op).1 := hcascade
      rw [chosen?, hafter] at h
      rcases Cascade.part_perform v.cascade op p with
        ⟨value, hvalue, rfl, hpart⟩ | ⟨r, rfl, hpart⟩ | ⟨rfl, hscope⟩ | hpart
      · rw [hpart] at h
        exact .selected (Event.eq_choice hop) hvalue h
      · refine .listed (Event.eq_listCompleted hop) fun value hvalue hoffered => h ?_
        rw [hpart, hvalue]
        exact ((v.cascade.part p).renewed_replace _).kept value hvalue (Part.mem_values.2 hoffered)
      · rw [← hafter, Cascade.scope?_eq_none] at hscope
        exact .lost hscope
      · rw [hpart] at h
        exact absurd rfl h

/-! ## Runs -/

/-- A choice that nothing unseats along the way is still there at its end. -/
lemma chosen?_after {settings : ViewSettings} {v : View} {es : List (Event × UInt64)} {p : Part}
    (h : ∀ x ∈ (told settings).trace v es, ¬ Unseats x.1 x.2.1 x.2.2 p (v.chosen? p)) :
    ((told settings).after v es).chosen? p = v.chosen? p := by
  induction es generalizing v with
  | nil => rfl
  | cons e es ih =>
      rw [System.trace, List.forall_mem_cons] at h
      obtain ⟨hfirst, hrest⟩ := h
      have hsame : (v.handle e.1 e.2).view.chosen? p = v.chosen? p :=
        Decidable.not_not.1 fun hchanged => hfirst (unseats_of_changed hchanged)
      rw [← hsame] at hrest
      exact (ih hrest).trans hsame

/-- **Choices stay.**  A view starts with the choices it is told to prefer, and a value that is
offered is chosen when it is selected.  An event changes a choice only if it unseats it: another
value is selected, a listing arrives that does not offer it, or it is an interface and metric or
host is missing afterwards.  So a choice outlives any number of events that do not unseat it. -/
theorem choice_stays :
    (∀ (settings : ViewSettings) (p : Part),
      (ofSettings settings).chosen? p = preferred? settings p) ∧
    (∀ (v : View) (p : Part) (value : String) (now : UInt64),
      value ∈ (v.cascade.part p).options →
        (v.handle (.choice p value) now).view.chosen? p = some value) ∧
    (∀ (v : View) (e : Event) (now : UInt64) (p : Part),
      (v.handle e now).view.chosen? p ≠ v.chosen? p → Unseats v e now p (v.chosen? p)) ∧
    ∀ (settings : ViewSettings) (v : View) (es : List (Event × UInt64)) (p : Part),
      (∀ x ∈ (told settings).trace v es, ¬ Unseats x.1 x.2.1 x.2.2 p (v.chosen? p)) →
        ((told settings).after v es).chosen? p = v.chosen? p := by
  refine ⟨fun settings p => ?preferred, fun v p value now hvalue => ?selected,
    fun v e now p => unseats_of_changed, fun settings v es p => chosen?_after⟩
  case preferred => cases p <;> rfl
  case selected =>
    have hcascade := handle_cascade v (.choice p value) now
    have hop : (Event.choice p value).op? = some (p.choice value) := by cases p <;> rfl
    rw [hop] at hcascade
    rw [chosen?, hcascade, Option.map_some, Option.getD_some, Cascade.perform_choice hvalue]

/-- A view that prefers the second of two metrics and has listed both. -/
def settled : View :=
  (told { (default : ViewSettings) with metric? := some "n" }).after
    (ofSettings { (default : ViewSettings) with metric? := some "n" })
    [(.start, 0), (.listCompleted .top 1 (.ok Cascade.listedAnyhow), 0)]

/-- A refresh that fails, an outcome that comes too late, and a refresh that succeeds. -/
def refreshes : List (Event × UInt64) :=
  [(.start, 1), (.listCompleted .top 2 (.error (.transport .list .timeout)), 2),
    (.listCompleted .top 1 (.ok ⟨true, none, []⟩), 3), (.start, 4),
    (.listCompleted .top 3 (.ok Cascade.listedInOrder), 5)]

/-- The second metric outlives all of that, until the first one is selected. -/
theorem choice_stays_refreshed :
    ((told default).after settled refreshes).chosen? .metric = some "n" ∧
    (settled.handle (.choice .metric "m") 6).view.chosen? .metric = some "m" ∧
    settled.Unseats (.choice .metric "m") 6 .metric (some "n") := by
  have hchosen : settled.chosen? .metric = some "n" := by decide
  obtain ⟨-, hselected, hchanged, hstays⟩ := choice_stays
  have hafter : (settled.handle (.choice .metric "m") 6).view.chosen? .metric = some "m" :=
    hselected settled .metric "m" 6 (by decide)
  refine ⟨?_, hafter, ?_⟩
  · rw [← hchosen]
    refine hstays default settled refreshes .metric ?_
    rw [hchosen]
    simp only [refreshes, System.trace, List.forall_mem_cons]
    refine ⟨?_, ?_, ?_, ?_, ?_, by simp⟩
    · rintro (⟨h, -, -⟩ | ⟨h, -⟩) <;> cases h
    · rintro (⟨h, -, -⟩ | ⟨h, -⟩) <;> cases h
    · rintro (⟨h, -, -⟩ | ⟨h, -⟩)
      · cases h
      · exact absurd (Event.listCompleted.inj h).2.1 (by decide)
    · rintro (⟨h, -, -⟩ | ⟨h, -⟩) <;> cases h
    · rintro (⟨h, -, -⟩ | ⟨h, hgone⟩)
      · cases h
      · obtain rfl := Except.ok.inj (Event.listCompleted.inj h).2.2
        exact hgone "n" rfl ⟨⟨"n", Labels.ofList [("hostname", "h")]⟩,
          ⟨_, .tail _ (.head _), by decide⟩, rfl⟩
  · rw [← hchosen]
    refine hchanged settled _ 6 .metric ?_
    rw [hafter, hchosen]
    decide

end View

end Meterboard
