import Meterboard.Proofs.Cascade.Traffic

/-!
# Which interfaces are offered

Interfaces are listed for the metric and host that are chosen when the listing is sent, and its
outcome arrives later.  A choice made in between asks for another listing, so the outcome is stale
and is dropped.  A root listing that leaves no metric or no host asks for nothing: it clears the
interfaces and leaves the counter alone, so the outcome of the listing before it still counts.

**Two events.**  `Withdraws` is such a root listing.  `Late` is a listing of interfaces that is
taken while no metric or no host is chosen.

**Exactness.**  `applied_inScope_iff` says that an applied listing of interfaces is for the metric
and the host that are chosen **if and only if** neither was withdrawn while its call was pending,
and that without a metric or a host no interface is offered but those of a late listing.
`late_listing_offers_interfaces` is a run in which this happens, so "always" would be wrong.

The proof compares a pending call with the history.  While a call stays the latest of its level,
`scope_of_no_listing` lets metric and host change in one way only, which is to be lost, and only a
root listing loses them (`withdraws_of_lost`).
-/

namespace Meterboard.Cascade

/-! ## Events -/

/-- The listing asks for the interfaces of the metric and the host that are chosen. -/
def InScope (c : Cascade) (call : ListCall) : Prop :=
  ∃ metric host, c.metric.current? = some metric ∧ c.host.current? = some host ∧
    call.request.pattern = metric ++ "\x7bhostname=" ++ host ++ ",interface=*\x7d"

/-- The operation is a root listing that leaves no metric or no host. -/
def Withdraws (t : Traffic) (op : Op) : Prop :=
  ∃ generation result, op = .apply .top generation result ∧
    (t.cascade.apply .top generation result).outcome = .incomplete

/-- The operation takes the listing of interfaces that a pending call asked for, while no metric or
no host is chosen. -/
def Late (t : Traffic) (op : Op) (call : ListCall) (response : ListResponse) : Prop :=
  op = .apply .interfaces call.generation (.ok response) ∧ call ∈ t.pending ∧
    call.level = .interfaces ∧ call.generation = t.cascade.interfacesIssued ∧
    (t.cascade.metric.current? = none ∨ t.cascade.host.current? = none)

/-- A listing for the chosen metric and host is in scope, as far as both are chosen. -/
lemma inScope_iff {c : Cascade} {call : ListCall}
    (h : ∀ scope, c.scope? = some scope → AsksFor call scope) :
    c.InScope call ↔ c.scope? ≠ none := by
  constructor
  · rintro ⟨metric, host, hm, hh, -⟩ hnone
    exact absurd (hnone.symm.trans (scope?_eq_some.2 ⟨hm, hh⟩ : c.scope? = some (metric, host)))
      (by simp)
  · intro hsome
    obtain ⟨⟨metric, host⟩, hscope⟩ := Option.ne_none_iff_exists'.1 hsome
    obtain ⟨hm, hh⟩ := scope?_eq_some.1 hscope
    refine ⟨metric, host, hm, hh, ?_⟩
    rw [h _ hscope]
    exact interfacesPattern_eq metric host

/-! ## How metric and host get lost -/

/-- An outcome that succeeded is stale just when a later call of its level was issued. -/
lemma outcome_ne_stale_iff {c : Cascade} {level : Level} {generation : Nat}
    {response : ListResponse} :
    (c.apply level generation (.ok response)).outcome ≠ .stale ↔ generation = c.issued level := by
  by_cases h : generation = c.issued level
  · have hfresh : (c.apply level generation (.ok response)).outcome ≠ .stale := by
      cases level with
      | top =>
          simp only [apply, h, ne_eq, not_true, if_false, takeTop]
          split <;> simp
      | interfaces =>
          simp only [apply, h, ne_eq, not_true, if_false, takeInterfaces]
          split <;> simp
    exact iff_of_true hfresh h
  · simp [apply, h]

/-- A root listing that is taken ends as incomplete just when it leaves no metric or no host. -/
lemma takeTop_incomplete_iff (c : Cascade) (ids : List Identifier) :
    (c.takeTop ids).2 = .incomplete ↔ (c.takeTop ids).1.scope? = none := by
  unfold takeTop
  dsimp only
  generalize ({ c with metric := _, host := _ } : Cascade) = d
  cases hs : d.scope? with
  | none =>
      rw [refreshInterfaces_of_none hs]
      exact iff_of_true rfl hs
  | some scope =>
      rw [refreshInterfaces_of_some hs]
      refine iff_of_false (by simp) ?_
      exact fun h => absurd (h.symm.trans hs) (by simp)

/-- After a withdrawal no metric or no host is chosen. -/
lemma Withdraws.scope_next {t : Traffic} {op : Op} (h : Withdraws t op) :
    (t.next op).cascade.scope? = none := by
  obtain ⟨generation, result, rfl, houtcome⟩ := h
  by_cases hg : generation = t.cascade.topIssued
  · cases result with
    | error e => simp [apply, issued, hg] at houtcome
    | ok response =>
        have htake : (t.cascade.takeTop (identifiers response)).2 = .incomplete := by
          simpa [apply, issued, hg] using houtcome
        simpa [Traffic.next, perform, apply, issued, hg]
          using (takeTop_incomplete_iff _ _).1 htake
  · simp [apply, issued, hg] at houtcome

/-- Only a root listing makes a choice of metric and host go away. -/
lemma withdraws_of_lost {t : Traffic} {op : Op} {scope : String × String}
    (hbefore : t.cascade.scope? = some scope) (hafter : (t.next op).cascade.scope? = none) :
    Withdraws t op := by
  obtain ⟨hm, hh⟩ := scope?_eq_some.1 hbefore
  have hmoves := moves_perform t.cascade op
  have hafter : (t.cascade.perform op).1.scope? = none := hafter
  generalize hmoved : t.cascade.perform op = moved at hafter hmoves
  have hlost : t.cascade.scope? ≠ none := by simp [hbefore]
  cases hmoves with
  | refused _ => exact absurd hafter hlost
  | root => exact absurd hafter hlost
  | asked _ hscope => exact absurd (hafter.symm.trans hscope) (by simp)
  | cleared hd hnone =>
      cases hd with
      | again => exact absurd hnone hlost
      | metric _ => simp [scope?_eq_none, hh] at hnone
      | host _ => simp [scope?_eq_none, hm] at hnone
      | @listing response =>
          refine ⟨t.cascade.topIssued, .ok response, rfl, ?_⟩
          have htake : (t.cascade.takeTop (identifiers response)).1.scope? = none := by
            have hfst := congrArg Prod.fst hmoved
            simp only [perform, apply, issued, ne_eq, not_true, if_false] at hfst
            rw [hfst]
            exact hnone
          simpa [apply, issued] using (takeTop_incomplete_iff _ _).2 htake
  | picked _ => exact absurd hafter hlost
  | listed => exact absurd hafter hlost

/-! ## Pending calls and the history -/

variable {root : String} {metric? host? interface? : Option String}
  {history : List (Traffic × Op)} {t : Traffic}

/-- Counters never go back along a run. -/
lemma issued_le_of_run (run : Run (traffic root metric? host? interface?) history t)
    (level : Level) : ∀ x ∈ history, x.1.cascade.issued level ≤ t.cascade.issued level := by
  induction run with
  | start => simp
  | @step history t op _ _ ih =>
      intro x hx
      have hstep : t.cascade.issued level ≤ (t.next op).cascade.issued level :=
        issued_le_perform t.cascade op level
      rcases List.mem_append.1 hx with hx | hx
      · exact Nat.le_trans (ih x hx) hstep
      · obtain rfl := List.mem_singleton.1 hx
        exact hstep

/-- While the latest listing of interfaces is pending, metric or host are missing just when they
were withdrawn since it was sent. -/
theorem withdrawn_iff (run : Run (traffic root metric? host? interface?) history t)
    {call : ListCall} (hcall : call ∈ t.pending) (hlevel : call.level = .interfaces)
    (hlatest : call.generation = t.cascade.interfacesIssued) :
    t.cascade.scope? = none ↔ ∃ x ∈ history, call ∈ x.1.pending ∧ Withdraws x.1 x.2 := by
  induction run with
  | start => cases hcall
  | @step history t op run allowed ih =>
      have hlatest : call.generation = (t.cascade.perform op).1.interfacesIssued := hlatest
      rcases Traffic.mem_pending_next hcall with hold | hnew
      · have hle := (sound_of_run run).numbered call hold
        have hmono := issued_le_perform t.cascade op .interfaces
        simp only [hlevel, issued] at hle hmono
        have hquiet : (t.cascade.perform op).1.interfacesIssued = t.cascade.interfacesIssued := by
          omega
        have ih := ih hold (by omega)
        constructor
        · intro hafter
          cases hbefore : t.cascade.scope? with
          | none =>
              obtain ⟨x, hx, hpending, hw⟩ := ih.1 hbefore
              exact ⟨x, List.mem_append_left _ hx, hpending, hw⟩
          | some scope =>
              exact ⟨(t, op), by simp, hold, withdraws_of_lost hbefore hafter⟩
        · rintro ⟨x, hx, hpending, hw⟩
          rcases List.mem_append.1 hx with hx | hx
          · have hbefore := ih.2 ⟨x, hx, hpending, hw⟩
            refine Option.eq_none_iff_forall_ne_some.2 fun scope hscope => ?_
            exact absurd (hbefore.symm.trans (scope_of_no_listing hquiet hscope)) (by simp)
          · obtain rfl := List.mem_singleton.1 hx
            exact hw.scope_next
      · obtain ⟨-, hfresh, hscope⟩ := perform_call hnew
        obtain ⟨scope, hscope, -⟩ := hscope hlevel
        refine iff_of_false (fun hafter => absurd (hafter.symm.trans hscope) (by simp)) ?_
        rintro ⟨x, hx, hpending, -⟩
        -- the call is newer than every call that was pending before it
        rcases List.mem_append.1 hx with hx | hx
        · obtain ⟨before, _, _, hreached, _⟩ := run.reached hx
          have hle := (sound_of_run hreached).numbered call hpending
          have hmono := issued_le_of_run run call.level x hx
          omega
        · obtain rfl := List.mem_singleton.1 hx
          have hle := (sound_of_run run).numbered call hpending
          omega

/-- A listing that is taken while metric or host are missing answers a call that was pending when
they were withdrawn. -/
lemma Late.withdrawn (run : Run (traffic root metric? host? interface?) history t) {op : Op}
    {call : ListCall} {response : ListResponse} (h : Late t op call response) :
    ∃ x ∈ history, call ∈ x.1.pending ∧ Withdraws x.1 x.2 := by
  obtain ⟨-, hpending, hlevel, hlatest, hmissing⟩ := h
  exact (withdrawn_iff run hpending hlevel hlatest).1 (scope?_eq_none.2 hmissing)

/-- The latest listing of interfaces is late where no metric or no host is chosen. -/
lemma late_of_allows {t : Traffic} {response : ListResponse}
    (allowed : t.allows (.apply .interfaces t.cascade.interfacesIssued (.ok response)))
    (hmissing : t.cascade.scope? = none) :
    ∃ call,
      Late t (.apply .interfaces t.cascade.interfacesIssued (.ok response)) call response := by
  obtain ⟨call, hpending, hanswers⟩ := allowed
  simp only [Op.answers, decide_eq_true_eq] at hanswers
  obtain ⟨hlevel, hlatest⟩ := hanswers
  exact ⟨call, by rw [hlatest], hpending, hlevel, hlatest, scope?_eq_none.1 hmissing⟩

/-- After an operation that leaves no metric or no host, the interfaces on offer are none, or those
of before, or those of the listing that the operation takes. -/
lemma offered_perform {c : Cascade} {op : Op} (h : (c.perform op).1.scope? = none) :
    (c.perform op).1.interface.options = [] ∨
      c.scope? = none ∧
        ((c.perform op).1.interface.options = c.interface.options ∨
          ∃ response, op = .apply .interfaces c.interfacesIssued (.ok response) ∧
            (c.perform op).1.interface.options
              = Sorted.ofList (labelValues Identifier.interfaceLabel (identifiers response))) := by
  have hmoves := moves_perform c op
  generalize c.perform op = moved at h hmoves
  cases hmoves with
  | refused _ => exact .inr ⟨h, .inl rfl⟩
  | root => exact .inr ⟨h, .inl rfl⟩
  | asked _ hscope => exact absurd (h.symm.trans hscope) (by simp)
  | cleared _ _ => exact .inl rfl
  | picked _ => exact .inr ⟨h, .inl rfl⟩
  | @listed response =>
      exact .inr ⟨h, .inr ⟨response, rfl, Selection.replace_options _ _⟩⟩

/-- Without a metric or a host, what interfaces are offered comes from a late listing. -/
lemma offered_of_scope_none (run : Run (traffic root metric? host? interface?) history t)
    (h : t.cascade.scope? = none) (hoffered : t.cascade.interface.options ≠ []) :
    ∃ x ∈ history, ∃ call response, Late x.1 x.2 call response ∧
      t.cascade.interface.options
        = Sorted.ofList (labelValues Identifier.interfaceLabel (identifiers response)) := by
  induction run with
  | start => exact absurd rfl hoffered
  | @step history t op run allowed ih =>
      rcases offered_perform (c := t.cascade) h with
        hnone | ⟨hmissing, hsame | ⟨response, rfl, hlisted⟩⟩
      · exact absurd hnone hoffered
      · have hbefore : t.cascade.interface.options ≠ [] := fun hnone =>
          hoffered (hsame.trans hnone)
        obtain ⟨x, hx, call, response, hlate, hoptions⟩ := ih hmissing hbefore
        exact ⟨x, List.mem_append_left _ hx, call, response, hlate, hsame.trans hoptions⟩
      · obtain ⟨call, hlate⟩ := late_of_allows allowed hmissing
        exact ⟨_, List.mem_append_right _ (List.mem_singleton.2 rfl), call, response, hlate,
          hlisted⟩

/-! ## Exactness -/

/-- **The scope of interfaces.**  An applied listing of interfaces is for the metric and the host
that are chosen if and only if no root listing withdrew one of them while its call was pending; and
without a metric or a host, whatever interface is offered comes from a late listing, whose call was
pending at such a withdrawal. -/
theorem applied_inScope_iff (run : Run (traffic root metric? host? interface?) history t) :
    (∀ call ∈ t.pending, ∀ response, call.level = .interfaces →
      (t.cascade.apply .interfaces call.generation (.ok response)).outcome ≠ .stale →
        (t.cascade.InScope call ↔
          ¬ ∃ x ∈ history, call ∈ x.1.pending ∧ Withdraws x.1 x.2)) ∧
    (t.cascade.metric.current? = none ∨ t.cascade.host.current? = none →
      t.cascade.interface.options ≠ [] →
        ∃ x ∈ history, ∃ call response, Late x.1 x.2 call response ∧
          t.cascade.interface.options
            = Sorted.ofList (labelValues Identifier.interfaceLabel (identifiers response)) ∧
          ∃ y ∈ history, call ∈ y.1.pending ∧ Withdraws y.1 y.2) := by
  refine ⟨fun call hpending response hlevel hfresh => ?_, fun hmissing hoffered => ?_⟩
  · have hlatest : call.generation = t.cascade.interfacesIssued := outcome_ne_stale_iff.1 hfresh
    have hscope := (sound_of_run run).inScope call hpending hlevel hlatest
    rw [inScope_iff hscope]
    exact not_congr (withdrawn_iff run hpending hlevel hlatest)
  · obtain ⟨x, hx, call, response, hlate, hoptions⟩ :=
      offered_of_scope_none run (scope?_eq_none.2 hmissing) hoffered
    obtain ⟨before, after, rfl, hreached, -⟩ := run.reached hx
    obtain ⟨y, hy, hwithdrawn⟩ := hlate.withdrawn hreached
    exact ⟨x, hx, call, response, hlate, hoptions, y, List.mem_append_left _ hy, hwithdrawn⟩

/-! ## A late listing -/

/-- A store with one interface of one metric on one host. -/
def oneInterface : Except StoreError ListResponse :=
  .ok ⟨true, none, [⟨"m\x7bhostname=h,interface=i\x7d", []⟩]⟩

/-- A store with nothing in it. -/
def emptyStore : Except StoreError ListResponse := .ok ⟨true, none, []⟩

/-- The cascades without preferences. -/
abbrev plainTraffic : System Traffic Op := traffic "/n" none none none

/-- The store is emptied while the interfaces of its one metric and host are being listed. -/
def emptied : List Op :=
  [.refreshTop, .apply .top 1 oneInterface, .refreshTop, .apply .top 2 emptyStore]

/-- Then the listing of interfaces arrives. -/
def emptiedLate : List Op := emptied ++ [.apply .interfaces 1 oneInterface]

/-- The listing of interfaces that is pending when the store is emptied. -/
def emptiedCall : ListCall :=
  ⟨.interfaces, 1, .ofPattern "m\x7bhostname=h,interface=*\x7d"⟩

lemma run_emptied :
    Run plainTraffic (plainTraffic.trace plainTraffic.start emptied)
      (plainTraffic.after plainTraffic.start emptied) :=
  Run.start.extend emptied (by decide)

lemma run_emptiedLate :
    Run plainTraffic (plainTraffic.trace plainTraffic.start emptiedLate)
      (plainTraffic.after plainTraffic.start emptiedLate) :=
  Run.start.extend emptiedLate (by decide)

/-- The listing that is pending when the store is emptied, and the interfaces that it offers
afterwards. -/
theorem applied_inScope_iff_emptied :
    emptiedCall ∈ (plainTraffic.after plainTraffic.start emptied).pending ∧
    ((plainTraffic.after plainTraffic.start emptied).cascade.InScope emptiedCall ↔
      ¬ ∃ x ∈ plainTraffic.trace plainTraffic.start emptied,
        emptiedCall ∈ x.1.pending ∧ Withdraws x.1 x.2) ∧
    ∃ x ∈ plainTraffic.trace plainTraffic.start emptiedLate, ∃ call response,
      Late x.1 x.2 call response ∧
        (plainTraffic.after plainTraffic.start emptiedLate).cascade.interface.options
          = Sorted.ofList (labelValues Identifier.interfaceLabel (identifiers response)) ∧
        ∃ y ∈ plainTraffic.trace plainTraffic.start emptiedLate,
          call ∈ y.1.pending ∧ Withdraws y.1 y.2 := by
  have hpending : emptiedCall ∈ (plainTraffic.after plainTraffic.start emptied).pending := by decide
  have hfresh : ((plainTraffic.after plainTraffic.start emptied).cascade.apply .interfaces
      emptiedCall.generation (.ok ⟨true, none, []⟩)).outcome ≠ .stale := by decide
  refine ⟨hpending, ?_, ?_⟩
  · exact (applied_inScope_iff run_emptied).1 emptiedCall hpending _ rfl hfresh
  · exact (applied_inScope_iff run_emptiedLate).2 (.inl (by decide)) (by decide)

/-- **A listing of interfaces can be applied out of scope.**  The store is emptied while a listing
of interfaces is pending; its outcome is taken although neither a metric nor a host is chosen, and
an interface is offered without them. -/
theorem late_listing_offers_interfaces :
    ∃ history t, Run plainTraffic history t ∧ t.cascade.metric.current? = none ∧
      t.cascade.host.current? = none ∧ t.cascade.interface.options = ["i"] ∧
      ∃ x ∈ history, ∃ call ∈ x.1.pending, call.level = .interfaces ∧
        x.2 = .apply .interfaces call.generation oneInterface ∧
        (x.1.cascade.apply .interfaces call.generation oneInterface).outcome ≠ .stale ∧
        ¬ x.1.cascade.InScope call := by
  refine ⟨_, _, run_emptiedLate, by decide, by decide, by decide,
    (plainTraffic.after plainTraffic.start emptied, .apply .interfaces 1 oneInterface),
    by simp [emptiedLate, emptied, System.trace, System.after],
    emptiedCall, by decide, rfl, rfl, by decide, ?_⟩
  rintro ⟨metric, host, hmetric, -⟩
  have hnone : (plainTraffic.after plainTraffic.start emptied).cascade.metric.current? = none := by
    decide
  exact absurd (hnone.symm.trans hmetric) (by simp)

end Meterboard.Cascade
