import Meterboard.Proofs.Cascade.Scope
import Meterboard.Proofs.View.Ready

/-!
# Polling

The outcome of a query sets the refetch timer, and the timer sends the next query, so data keeps
coming.  A timer that fires while something is not chosen is used up without a query; from then on
only an event that chooses the missing part can start the fetching again.

**Alive.**  `Session.Polls` — the timer is set, or the latest query is on its way.  `Session.Alive`
— the session polls, once it has sent a query, whenever everything is chosen and no listing is on
its way.

**One step.**  `polls_next`: a step that sends a query polls, and no other step starts the polling;
it stops the polling only where something is not chosen.

**Exactness.**  `alive_iff_not_revived` says that a session is alive **if and only if** its
selection was not completed, since the latest query, by a root listing that found an interface still
chosen (`Revived`), and that this needs a late listing of interfaces (`ListsLate`).
`revived_selection_never_polls` is a run in which it happens.
-/

namespace Meterboard

namespace Cascade

/-- Only two listings complete a selection: one of the root, where just metric or host were missing,
and one of interfaces. -/
lemma completed_perform {c : Cascade} {op : Op} (hm : c.metric.Settled) (hh : c.host.Settled)
    (hi : c.interface.Settled) (hbefore : c.complete? = none)
    (hafter : (c.perform op).1.complete?.isSome) :
    (∃ response, op = .apply .top c.topIssued (.ok response)) ∧
        c.scope? = none ∧ c.interface.current?.isSome ∨
      ∃ response, op = .apply .interfaces c.interfacesIssued (.ok response) := by
  have hincomplete : ¬ (c.scope?.isSome ∧ c.interface.current?.isSome) := by
    rw [← complete?_isSome, hbefore]
    simp
  have hmoves := moves_perform c op
  generalize c.perform op = moved at hafter hmoves
  cases hmoves with
  | refused _ => exact absurd (complete?_isSome.1 hafter) hincomplete
  | root => exact absurd (complete?_isSome.1 hafter) hincomplete
  | asked hd _ =>
      obtain ⟨hscope, hinterface⟩ := complete?_isSome.1 hafter
      cases hd with
      | again => exact absurd ⟨hscope, hinterface⟩ hincomplete
      | metric hvalue =>
          -- something is offered, so a metric was chosen before, and the host has not changed
          have hbefore : c.scope?.isSome :=
            scope?_isSome.2 ⟨hm.isSome_of_mem hvalue, (scope?_isSome.1 hscope).2⟩
          exact absurd ⟨hbefore, hinterface⟩ hincomplete
      | host hvalue =>
          have hbefore : c.scope?.isSome :=
            scope?_isSome.2 ⟨(scope?_isSome.1 hscope).1, hh.isSome_of_mem hvalue⟩
          exact absurd ⟨hbefore, hinterface⟩ hincomplete
      | @listing response =>
          refine .inl ⟨⟨response, rfl⟩, ?_, hinterface⟩
          exact Option.not_isSome_iff_eq_none.1 fun hsome => hincomplete ⟨hsome, hinterface⟩
  | cleared _ _ => exact absurd (complete?_isSome.1 hafter).2 (by simp [Selection.clear])
  | picked hvalue =>
      exact absurd ⟨(complete?_isSome.1 hafter).1, hi.isSome_of_mem hvalue⟩ hincomplete
  | @listed response => exact .inr ⟨response, rfl⟩

/-- Where metric or host are missing, an interface is chosen only because it was chosen before, or
because interfaces were listed. -/
lemma kept_perform {c : Cascade} {op : Op} (hi : c.interface.Settled)
    (hafter : (c.perform op).1.scope? = none)
    (hkept : (c.perform op).1.interface.current?.isSome) :
    c.scope? = none ∧ (c.interface.current?.isSome ∨
      ∃ response, op = .apply .interfaces c.interfacesIssued (.ok response)) := by
  have hmoves := moves_perform c op
  generalize c.perform op = moved at hafter hkept hmoves
  cases hmoves with
  | refused _ => exact ⟨hafter, .inl hkept⟩
  | root => exact ⟨hafter, .inl hkept⟩
  | asked _ hscope => exact absurd (hafter.symm.trans hscope) (by simp)
  | cleared _ _ => exact absurd hkept (by simp [Selection.clear])
  | picked hvalue => exact ⟨hafter, .inl (hi.isSome_of_mem hvalue)⟩
  | @listed response => exact ⟨hafter, .inr ⟨response, rfl⟩⟩

end Cascade

namespace View

/-! ## What a step does to the polling -/

/-- The timer is set, or the latest query has not been answered. -/
def Session.Polls (s : Session) : Prop :=
  s.armed = true ∨ ∃ call ∈ s.gets, call.generation = s.view.getsIssued

instance (s : Session) : Decidable s.Polls := inferInstanceAs (Decidable (_ ∨ _))

/-- Once a query was sent, a complete selection is polled, unless a listing is on its way. -/
def Session.Alive (s : Session) : Prop :=
  1 ≤ s.view.getsIssued → s.view.cascade.complete?.isSome → s.lists = [] → s.Polls

instance (s : Session) : Decidable s.Alive := inferInstanceAs (Decidable (_ → _ → _ → _))

/-- A step that fetches sends the latest query, and everything is chosen after it. -/
lemma polls_of_fetched {s : Session} {i : Input}
    (h : Fetched s.view i.now (s.view.handle i.event i.now)) :
    (s.next i).view.getsIssued = s.view.getsIssued + 1 ∧ (s.next i).Polls ∧
      (s.next i).view.cascade.complete?.isSome := by
  obtain ⟨metric, host, interface, hcomplete, hissued, call, hcall, heffects⟩ := h
  have hsent : .get call ∈ (s.view.handle i.event i.now).effects := by
    rcases heffects with heffects | heffects | heffects <;> simp [heffects]
  refine ⟨hissued, .inr ⟨call, ?_, ?_⟩, Option.isSome_iff_exists.2 ⟨_, hcomplete⟩⟩
  · exact List.mem_append_right _ (List.mem_filterMap.2 ⟨.get call, hsent, rfl⟩)
  · rw [hcall]
    exact hissued.symm

/-- A step that takes the outcome of the latest query ends with the timer set. -/
lemma polls_of_rearmed {s : Session} {i : Input} (allowed : s.allows i)
    (h : Rearmed s.view i.event (s.view.handle i.event i.now)) :
    (s.next i).view.getsIssued = s.view.getsIssued ∧ s.Polls ∧ (s.next i).Polls := by
  obtain ⟨⟨result, he⟩, hissued, heffects⟩ := h
  refine ⟨hissued, ?_, .inl ?_⟩
  · cases i with
    | fire now => cases he
    | tell e now =>
        obtain rfl : e = .getCompleted s.view.getsIssued result := he
        obtain ⟨call, hcall, hanswers⟩ := allowed
        exact .inr ⟨call, hcall, by simpa [Event.answersGet] using hanswers⟩
  · rcases heffects with heffects | ⟨message, heffects⟩ <;>
      simp [Session.next, heffects, Effect.setTimer]

/-- A quiet step starts no polling, and stops it only where something is not chosen. -/
lemma polls_of_quiet {s : Session} {i : Input}
    (h : Quiet s.view i.event (s.view.handle i.event i.now)) :
    (s.next i).view.getsIssued = s.view.getsIssued ∧ ((s.next i).Polls → s.Polls) ∧
      ((s.next i).view.cascade.complete?.isSome → s.Polls → (s.next i).Polls) := by
  have hgets : (s.next i).gets = s.gets.filter (!i.event.answersGet ·) := by
    simp [Session.next, h.gets]
  refine ⟨h.getsIssued, ?_, fun hcomplete => ?_⟩
  · rintro (harmed | ⟨call, hcall, hlatest⟩)
    · have hbefore := h.timer harmed
      simp only [Bool.and_eq_true] at hbefore
      exact .inl hbefore.1
    · rw [hgets] at hcall
      exact .inr ⟨call, (List.mem_filter.1 hcall).1, hlatest.trans h.getsIssued⟩
  · obtain ⟨hrefetch, htimer⟩ := h.complete hcomplete
    rintro (harmed | ⟨call, hcall, hlatest⟩)
    · refine .inl ((htimer _).trans ?_)
      cases i with
      | fire now => exact absurd rfl hrefetch
      | tell e now => simp [harmed, Input.isFire]
    · refine .inr ⟨call, ?_, hlatest.trans h.getsIssued.symm⟩
      rw [hgets]
      refine List.mem_filter.2 ⟨hcall, ?_⟩
      -- the outcome of the latest query would set the timer
      cases he : i.event with
      | getCompleted generation result =>
          have hother : call.generation ≠ generation := by
            rintro rfl
            exact h.outcome result (he.trans (by rw [hlatest]))
          simp [Event.answersGet, hother]
      | _ => rfl

/-- **One step.**  A step sends a query and polls, or it starts no polling and stops it only where
something is not chosen. -/
theorem polls_next {s : Session} {i : Input} (allowed : s.allows i) :
    ((s.next i).view.getsIssued = s.view.getsIssued + 1 ∧ (s.next i).Polls ∧
      (s.next i).view.cascade.complete?.isSome) ∨
    ((s.next i).view.getsIssued = s.view.getsIssued ∧ ((s.next i).Polls → s.Polls) ∧
      ((s.next i).view.cascade.complete?.isSome → s.Polls → (s.next i).Polls)) := by
  rcases turn_handle s.view i.event i.now with h | h | h
  · exact .inl (polls_of_fetched h)
  · obtain ⟨hissued, hbefore, hafter⟩ := polls_of_rearmed allowed h
    exact .inr ⟨hissued, fun _ => hbefore, fun _ _ => hafter⟩
  · exact .inr (polls_of_quiet h)

/-! ## Along a run -/

/-- The input takes a listing of interfaces while no metric or no host is chosen. -/
def ListsLate (s : Session) (i : Input) : Prop :=
  ∃ op call response, i.event.op? = some op ∧ Cascade.Late s.traffic op call response

/-- A root listing brings back the missing metric or host of a session that does not poll, and an
interface is still chosen. -/
structure Revived (s : Session) (i : Input) : Prop where
  listing : ∃ generation result now, i = .tell (.listCompleted .top generation result) now
  fetched : 1 ≤ s.view.getsIssued
  idle : ¬ s.Polls
  missing : s.view.cascade.metric.current? = none ∨ s.view.cascade.host.current? = none
  kept : s.view.cascade.interface.current?.isSome
  completed : (s.next i).view.cascade.complete?.isSome

/-- A step without a query that completes the selection of a session that does not poll revives
it: a listing of interfaces would have sent a query. -/
lemma revived_of_completed {s : Session} {i : Input} (sound : s.traffic.Sound)
    (hfetched : 1 ≤ s.view.getsIssued) (hidle : ¬ s.Polls)
    (hissued : (s.next i).view.getsIssued = s.view.getsIssued)
    (hbefore : s.view.cascade.complete? = none)
    (hafter : (s.next i).view.cascade.complete?.isSome) : Revived s i := by
  cases hop : i.event.op? with
  | none =>
      rw [next_cascade_of_none hop] at hafter
      exact absurd hafter (by simp [hbefore])
  | some op =>
      have hperform : (s.view.cascade.perform op).1.complete?.isSome :=
        next_cascade_of_some hop ▸ hafter
      rcases Cascade.completed_perform sound.metric sound.host sound.interface hbefore hperform with
        ⟨⟨response, rfl⟩, hscope, hkept⟩ | ⟨response, rfl⟩
      · refine ⟨?_, hfetched, hidle, Cascade.scope?_eq_none.1 hscope, hkept, hafter⟩
        cases i with
        | fire now => cases hop
        | tell e now =>
            obtain rfl : e = .listCompleted .top _ (.ok response) := Event.eq_listCompleted hop
            exact ⟨_, _, now, rfl⟩
      · have he : i.event = .listCompleted .interfaces s.view.cascade.interfacesIssued
            (.ok response) := Event.eq_listCompleted hop
        have hnew := issued_ready i.now (Cascade.outcome_of_complete hperform) hperform
        rw [← he] at hnew
        have hsame : (s.view.handle i.event i.now).view.getsIssued = s.view.getsIssued := hissued
        omega

variable {settings : ViewSettings} {history : List (Session × Input)} {s : Session}

/-- Between two queries a session that does not poll never starts to. -/
lemma polls_before (run : Run (session settings) history s) :
    ∀ x ∈ history, x.1.view.getsIssued ≤ s.view.getsIssued ∧
      (x.1.view.getsIssued = s.view.getsIssued → s.Polls → x.1.Polls) := by
  induction run with
  | start => simp
  | @step history s i _ allowed ih =>
      have hstep : s.view.getsIssued ≤ (s.next i).view.getsIssued ∧
          (s.view.getsIssued = (s.next i).view.getsIssued → (s.next i).Polls → s.Polls) := by
        rcases polls_next allowed with ⟨hissued, -, -⟩ | ⟨hissued, hback, -⟩
        · exact ⟨by omega, fun h => by omega⟩
        · exact ⟨by omega, fun _ => hback⟩
      intro x hx
      rcases List.mem_append.1 hx with hx | hx
      · obtain ⟨hle, hpolls⟩ := ih x hx
        refine ⟨Nat.le_trans hle hstep.1, fun heq hafter => ?_⟩
        have heq : x.1.view.getsIssued = (s.next i).view.getsIssued := heq
        exact hpolls (by omega) (hstep.2 (by omega) hafter)
      · obtain rfl := List.mem_singleton.1 hx
        exact hstep

/-- A complete selection that is not polled was revived after the latest query. -/
lemma revived_of_stalled (run : Run (session settings) history s)
    (hfetched : 1 ≤ s.view.getsIssued) (hcomplete : s.view.cascade.complete?.isSome)
    (hidle : ¬ s.Polls) :
    ∃ x ∈ history, Revived x.1 x.2 ∧ x.1.view.getsIssued = s.view.getsIssued := by
  induction run with
  | start => exact absurd hfetched (by simp [session, ofSettings])
  | @step history s i run allowed ih =>
      rcases polls_next allowed with ⟨-, hpolls, -⟩ | ⟨hissued, -, hkeeps⟩
      · exact absurd hpolls hidle
      · have hissued' : ((session settings).next s i).view.getsIssued = s.view.getsIssued := hissued
        rw [hissued'] at hfetched ⊢
        have hbefore : ¬ s.Polls := fun h => hidle (hkeeps hcomplete h)
        cases hchosen : s.view.cascade.complete? with
        | none =>
            have hsound := sound_of_session (loose_of_session run)
            exact ⟨(s, i), by simp,
              revived_of_completed hsound hfetched hbefore hissued hchosen hcomplete, rfl⟩
        | some choice =>
            obtain ⟨x, hx, hrevived⟩ := ih hfetched (by simp [hchosen]) hbefore
            exact ⟨x, List.mem_append_left _ hx, hrevived⟩

/-- After the first query, an interface is chosen without a metric or a host only because of a late
listing: a query needs all three, and losing one of the first two clears the third. -/
lemma late_of_kept (run : Run (session settings) history s) (hfetched : 1 ≤ s.view.getsIssued)
    (hmissing : s.view.cascade.scope? = none)
    (hkept : s.view.cascade.interface.current?.isSome) :
    ∃ x ∈ history, ListsLate x.1 x.2 := by
  induction run with
  | start => exact absurd hfetched (by simp [session, ofSettings])
  | @step history s i run allowed ih =>
      have hmissing : (s.next i).view.cascade.scope? = none := hmissing
      have hkept : (s.next i).view.cascade.interface.current?.isSome := hkept
      rcases polls_next allowed with ⟨-, -, hcomplete⟩ | ⟨hissued, -, -⟩
      · exact absurd (Cascade.complete?_isSome.1 hcomplete).1 (by simp [hmissing])
      · have hfetched : 1 ≤ s.view.getsIssued := hissued ▸ hfetched
        have hbefore : s.view.cascade.scope? = none →
            s.view.cascade.interface.current?.isSome → ∃ x ∈ history ++ [(s, i)],
              ListsLate x.1 x.2 := by
          intro hmissing hkept
          obtain ⟨x, hx, hlate⟩ := ih hfetched hmissing hkept
          exact ⟨x, List.mem_append_left _ hx, hlate⟩
        cases hop : i.event.op? with
        | none =>
            rw [next_cascade_of_none hop] at hmissing hkept
            exact hbefore hmissing hkept
        | some op =>
            rw [next_cascade_of_some hop] at hmissing hkept
            have hsound := sound_of_session (loose_of_session run)
            rcases Cascade.kept_perform hsound.interface hmissing hkept with
              ⟨hscope, hinterface | ⟨response, rfl⟩⟩
            · exact hbefore hscope hinterface
            · have hallowed := traffic_allows (Session.listed_of_allows allowed) hop
              obtain ⟨call, hlate⟩ := Cascade.late_of_allows hallowed hscope
              exact ⟨(s, i), by simp, _, call, response, hop, hlate⟩

/-- **When polling dies.**  A session is alive if and only if its selection was not revived since
the latest query while every listing has been answered; and without a late listing of interfaces it
is always alive. -/
theorem alive_iff_not_revived (run : Run (session settings) history s) :
    (s.Alive ↔ ¬ (s.view.cascade.complete?.isSome ∧ s.lists = [] ∧
      ∃ x ∈ history, Revived x.1 x.2 ∧ x.1.view.getsIssued = s.view.getsIssued)) ∧
    ((∀ x ∈ history, ¬ ListsLate x.1 x.2) → s.Alive) := by
  have hstalls : ∀ x ∈ history, Revived x.1 x.2 →
      x.1.view.getsIssued = s.view.getsIssued → ¬ s.Polls :=
    fun x hx hrevived heq hpolls => hrevived.idle ((polls_before run x hx).2 heq hpolls)
  refine ⟨⟨?_, ?_⟩, ?_⟩
  · rintro halive ⟨hcomplete, hlists, x, hx, hrevived, heq⟩
    have hfetched : 1 ≤ s.view.getsIssued := heq ▸ hrevived.fetched
    exact hstalls x hx hrevived heq (halive hfetched hcomplete hlists)
  · intro hnot hfetched hcomplete hlists
    refine Decidable.byContradiction fun hidle => hnot ⟨hcomplete, hlists, ?_⟩
    exact revived_of_stalled run hfetched hcomplete hidle
  · intro hprompt hfetched hcomplete _
    refine Decidable.byContradiction fun hidle => ?_
    obtain ⟨x, hx, hrevived, -⟩ := revived_of_stalled run hfetched hcomplete hidle
    obtain ⟨before, after, rfl, hreached, -⟩ := run.reached hx
    obtain ⟨y, hy, hlate⟩ := late_of_kept hreached hrevived.fetched
      (Cascade.scope?_eq_none.2 hrevived.missing) hrevived.kept
    exact hprompt y (List.mem_append_left _ hy) hlate

/-! ## A session that dies -/

/-- The store is emptied and its interfaces are taken late; the timer fires in vain; then the store
is filled again and the listing of its interfaces fails. -/
def refilled : List Input :=
  let fullStore := Cascade.oneInterface
  [.tell .start 0, .tell (.listCompleted .top 1 fullStore) 0,
    .tell (.listCompleted .interfaces 1 fullStore) 0,
    .tell (.getCompleted 1 (.ok ⟨true, none, []⟩)) 0, .tell (.metricSelected "m") 0,
    .tell .start 0, .tell (.listCompleted .top 2 Cascade.emptyStore) 0,
    .tell (.listCompleted .interfaces 2 fullStore) 0, .fire 0,
    .tell .start 0, .tell (.listCompleted .top 3 fullStore) 0,
    .tell (.listCompleted .interfaces 3 (.error (.transport .list .timeout))) 0]

lemma run_refilled :
    Run plainSession (plainSession.trace plainSession.start refilled)
      (plainSession.after plainSession.start refilled) :=
  Run.start.extend refilled (by decide)

/-- The session that dies was revived, after a late listing. -/
theorem alive_iff_not_revived_refilled :
    (∃ x ∈ plainSession.trace plainSession.start refilled, Revived x.1 x.2 ∧
      x.1.view.getsIssued
        = (plainSession.after plainSession.start refilled).view.getsIssued) ∧
    ¬ ∀ x ∈ plainSession.trace plainSession.start refilled, ¬ ListsLate x.1 x.2 := by
  have hdead : ¬ (plainSession.after plainSession.start refilled).Alive := by decide
  obtain ⟨hiff, hprompt⟩ := alive_iff_not_revived run_refilled
  refine ⟨?_, fun h => hdead (hprompt h)⟩
  exact (Classical.not_not.1 (mt hiff.2 hdead)).2.2

/-- **Polling can die.**  A query was sent and answered, everything is chosen and every listing has
been answered, but the timer is not set and no query is on its way. -/
theorem revived_selection_never_polls :
    ∃ history s, Run plainSession history s ∧ 1 ≤ s.view.getsIssued ∧
      s.view.cascade.complete? = some ("m", "h", "i") ∧ s.lists = [] ∧ s.armed = false ∧
      s.gets = [] :=
  ⟨_, _, run_refilled, by decide, by decide, by decide, by decide, by decide⟩

end View

end Meterboard
