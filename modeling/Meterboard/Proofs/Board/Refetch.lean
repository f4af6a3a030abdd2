import Meterboard.Proofs.Board.Turn
import Meterboard.Proofs.View.Stale

/-!
# The refetch timer

A fetch stops the timer, and its outcome sets it again, so that the next fetch is planned only when
nothing is on its way.  The view asks for that with effects; the board carries them out, takes the
replies and lets the timer fire.

**Effects.**  `effects_of_get` — a query comes last in its step, behind the effect that stops the
timer.  `arms_iff` — a step sets the timer exactly if it takes the outcome of the latest query.

**Numbers.**  `View.Orderly` — the queries on their way have different numbers up to that of the
latest, and a set timer means that the latest is not among them.  Every event keeps this
(`Orderly.handle`), if the outcome of the latest query comes only while it is on its way.

**Boards.**  A board on an honest source is orderly (`kept_orderly`): a reply that is polled was on
its way, and is not any more.  `refetch_waits` is what this means for the timer.
-/

namespace Meterboard

namespace View

/-! ## Effects -/

/-- A step that fetches stops the timer, sends one query after that, and does not set the timer. -/
lemma Fetched.effects {v : View} {now : UInt64} {step : Step} (h : Fetched v now step) :
    (∃ before call, step.effects = before ++ [.get call] ∧ .cancelRefetch ∈ before ∧
      (∀ delay, .armRefetch delay ∉ before) ∧ ∀ other, .get other ∉ before) ∧
    ∀ armed, step.effects.foldl Effect.setTimer armed = false := by
  obtain ⟨_, _, _, -, -, call, -, heffects⟩ := h
  rcases heffects with heffects | heffects | heffects
  · exact ⟨⟨[.cancelRefetch], call, heffects, by simp⟩, fun _ => by rw [heffects]; rfl⟩
  · exact ⟨⟨[.render, .cancelRefetch], call, heffects, by simp⟩, fun _ => by rw [heffects]; rfl⟩
  · exact ⟨⟨[.cancelRefetch, .render], call, heffects, by simp⟩, fun _ => by rw [heffects]; rfl⟩

/-- A query is the last effect of its step, the timer is stopped before, and it is not set. -/
theorem effects_of_get {v : View} {e : Event} {now : UInt64} {call : GetCall}
    (h : .get call ∈ (v.handle e now).effects) :
    ∃ before, (v.handle e now).effects = before ++ [.get call] ∧ .cancelRefetch ∈ before ∧
      ∀ delay, .armRefetch delay ∉ before := by
  rcases turn_handle v e now with hfetched | hrearmed | hquiet
  · obtain ⟨⟨before, sent, heffects, hstopped, hunset, hother⟩, -⟩ := hfetched.effects
    have hsent : call = sent := by simpa [heffects, hother] using h
    subst hsent
    exact ⟨before, heffects, hstopped, hunset⟩
  · obtain ⟨-, -, heffects | ⟨message, heffects⟩⟩ := hrearmed <;> simp [heffects] at h
  · exact absurd (mem_gets.2 h) (by simp [hquiet.gets])

/-- A step that sets the timer takes the outcome of the latest query. -/
lemma rearmed_of_arms {v : View} {e : Event} {now : UInt64} {delay : Nat}
    (h : .armRefetch delay ∈ (v.handle e now).effects) : Rearmed v e (v.handle e now) := by
  rcases turn_handle v e now with hfetched | hrearmed | hquiet
  · obtain ⟨⟨before, sent, heffects, -, hunset, -⟩, -⟩ := hfetched.effects
    exact absurd h (by simp [heffects, hunset])
  · exact hrearmed
  · exact absurd h (hquiet.arms delay)

/-- The timer is set once, and last. -/
lemma effects_of_arms {v : View} {e : Event} {now : UInt64} {delay : Nat}
    (h : .armRefetch delay ∈ (v.handle e now).effects) :
    ∃ first : Effect, first.onTimer = false ∧
      (v.handle e now).effects = [first, .armRefetch delay] := by
  obtain ⟨-, -, heffects | ⟨message, heffects⟩⟩ := rearmed_of_arms h
  · obtain rfl : delay = refetchDelay := by simpa [heffects] using h
    exact ⟨.render, rfl, heffects⟩
  · obtain rfl : delay = refetchDelay := by simpa [heffects] using h
    exact ⟨.notice message, rfl, heffects⟩

/-- **The timer is set exactly by the outcome of the latest query**, whatever it is. -/
theorem arms_iff (v : View) (e : Event) (now : UInt64) :
    (∃ delay, .armRefetch delay ∈ (v.handle e now).effects) ↔
      ∃ result, e = .getCompleted v.getsIssued result := by
  constructor
  · rintro ⟨delay, h⟩
    exact (rearmed_of_arms h).1
  · rintro ⟨result, rfl⟩
    obtain ⟨-, -, heffects | ⟨message, heffects⟩⟩ := rearmed_outcome v result now
    · exact ⟨refetchDelay, by simp [heffects]⟩
    · exact ⟨refetchDelay, by simp [heffects]⟩

/-! ## Numbers -/

/-- The queries on their way have different numbers up to the latest one; a set timer means that
the latest was sent and has been answered. -/
structure Orderly (issued : Nat) (pending : List Nat) (armed : Bool) : Prop where
  numbered : ∀ n ∈ pending, 1 ≤ n ∧ n ≤ issued
  nodup : pending.Nodup
  waits : armed = true → 1 ≤ issued ∧ issued ∉ pending

namespace Orderly

variable {issued n : Nat} {pending pending' : List Nat} {armed : Bool}

lemma perm (h : Orderly issued pending armed) (hperm : pending'.Perm pending) :
    Orderly issued pending' armed where
  numbered := fun n hn => h.numbered n (hperm.mem_iff.1 hn)
  nodup := hperm.nodup_iff.2 h.nodup
  waits := fun harmed => by simpa [hperm.mem_iff] using h.waits harmed

/-- The timer may be stopped at any time. -/
lemma stop (h : Orderly issued pending armed) : Orderly issued pending false :=
  ⟨h.numbered, h.nodup, nofun⟩

/-- A query that is answered is not on its way any more. -/
lemma answered (h : Orderly issued (n :: pending) armed) :
    Orderly issued pending armed ∧ n ∉ pending ∧ 1 ≤ n ∧ (n = issued → armed = false) := by
  obtain ⟨hnew, hnodup⟩ := List.nodup_cons.1 h.nodup
  refine ⟨⟨?_, hnodup, ?_⟩, hnew, (h.numbered n List.mem_cons_self).1, ?_⟩
  · exact fun m hm => h.numbered m (List.mem_cons_of_mem _ hm)
  · intro harmed
    obtain ⟨hissued, hlatest⟩ := h.waits harmed
    exact ⟨hissued, fun hm => hlatest (List.mem_cons_of_mem _ hm)⟩
  · rintro rfl
    exact Bool.eq_false_iff.2 fun harmed => (h.waits harmed).2 List.mem_cons_self

/-- **One event.**  The outcome of the latest query is taken only after it was on its way. -/
theorem handle {v : View} (h : Orderly v.getsIssued pending armed) (e : Event) (now : UInt64)
    (hlatest : ∀ result, e = .getCompleted v.getsIssued result →
      1 ≤ v.getsIssued ∧ v.getsIssued ∉ pending) :
    Orderly (v.handle e now).view.getsIssued
      ((v.handle e now).effects.filterMap Effect.getNumber? ++ pending)
      ((v.handle e now).effects.foldl Effect.setTimer armed) := by
  obtain ⟨hle, hnumbers⟩ := get_numbers_handle v e now
  refine ⟨?_, ?_, ?_⟩
  · intro n hn
    rcases List.mem_append.1 hn with hn | hn
    · rw [hnumbers, List.mem_range'_1] at hn
      omega
    · have hbefore := h.numbered n hn
      omega
  · rw [hnumbers]
    refine List.nodup_append.2 ⟨List.nodup_range', h.nodup, ?_⟩
    rintro n hnew _ hn rfl
    rw [List.mem_range'_1] at hnew
    have hbefore := h.numbered n hn
    omega
  · intro harmed
    rcases turn_handle v e now with hfetched | hrearmed | hquiet
    · -- the timer was stopped
      rw [hfetched.effects.2 armed] at harmed
      cases harmed
    · obtain ⟨⟨result, rfl⟩, hissued, -⟩ := hrearmed
      rw [hissued] at hnumbers ⊢
      simpa [hnumbers] using hlatest result rfl
    · have hissued := hquiet.getsIssued
      rw [hissued] at hnumbers ⊢
      simpa [hnumbers] using h.waits (hquiet.timer harmed)

end Orderly

end View

/-- The number of the query that a mark stands for. -/
def Mark.getNumber? : Mark → Option Nat
  | .list _ _ => none
  | .get generation => some generation

lemma Mark.mem_numbers {n : Nat} {marks : List Mark} :
    n ∈ marks.filterMap getNumber? ↔ .get n ∈ marks := by
  refine View.mem_filterMap_iff fun mark n => ?_
  cases mark <;> simp [getNumber?]

lemma View.filterMap_mark? (es : List View.Effect) :
    (es.filterMap View.Effect.mark?).filterMap Mark.getNumber?
      = es.filterMap View.Effect.getNumber? := by
  rw [List.filterMap_filterMap]
  congr 1
  funext effect
  cases effect <;> rfl

namespace Board

variable {σ : Type} [StoreSource σ] {unanswered : σ → List Mark}

/-! ## Boards -/

/-- The queries of a board are orderly. -/
def Orderly (unanswered : σ → List Mark) (b : Board σ) : Prop :=
  View.Orderly b.view.getsIssued ((unanswered b.source).filterMap Mark.getNumber?)
    b.refetchAt?.isSome

/-- The effects of a step are carried out after the view has changed. -/
lemma orderly_carryOutAll (honest : StoreSource.Honest unanswered) {b : Board σ}
    {es : List View.Effect} (now : Clock)
    (h : View.Orderly b.view.getsIssued
      (es.filterMap View.Effect.getNumber? ++ (unanswered b.source).filterMap Mark.getNumber?)
      (es.foldl View.Effect.setTimer b.refetchAt?.isSome)) :
    (b.carryOutAll now es).Orderly unanswered := by
  have hunanswered := (carryOutAll_unanswered honest now b es).filterMap Mark.getNumber?
  rw [List.filterMap_append, View.filterMap_mark?] at hunanswered
  unfold Orderly
  rw [carryOutAll_view, carryOutAll_refetchAt?]
  exact h.perm hunanswered

lemma orderly_tell (honest : StoreSource.Honest unanswered) {b : Board σ}
    (h : b.Orderly unanswered) {event : View.Event} (hevent : event.isOutcome = false)
    (now : Clock) : (b.tell event now).Orderly unanswered := by
  refine orderly_carryOutAll honest now (View.Orderly.handle h event now.wall ?_)
  rintro result rfl
  cases hevent

/-- A reply that is polled was on its way: if it is that of the latest query, the timer was not
set. -/
lemma orderly_polled (honest : StoreSource.Honest unanswered) {b : Board σ} {reply : StoreReply}
    {source : σ} (h : b.Orderly unanswered)
    (hpoll : StoreSource.poll? b.source = some (reply, source)) :
    ({ b with source } : Board σ).Orderly unanswered ∧
      ∀ result, View.Event.ofReply reply = .getCompleted b.view.getsIssued result →
        1 ≤ b.view.getsIssued ∧
          b.view.getsIssued ∉ (unanswered source).filterMap Mark.getNumber? ∧
          b.refetchAt? = none := by
  have hpolled := h.perm ((honest.poll b.source hpoll).filterMap Mark.getNumber?).symm
  cases reply with
  | list level generation result => exact ⟨hpolled, nofun⟩
  | get generation result =>
      obtain ⟨horderly, hnew, hpositive, hset⟩ := hpolled.answered
      refine ⟨horderly, ?_⟩
      intro result' hlatest
      cases hlatest
      exact ⟨hpositive, hnew, Option.not_isSome_iff_eq_none.1 (by simp [hset rfl])⟩

/-- A reply whose last effect sets the timer leaves it set. -/
lemma takeReply_refetchAt? {b : Board σ} {source : σ} {reply : StoreReply} {first : View.Effect}
    {delay : Nat} (now : Clock)
    (h : (b.view.handle (.ofReply reply) now.wall).effects = [first, .armRefetch delay]) :
    ({ b with source }.takeReply reply now).refetchAt? = some (now.steady + delay) := by
  unfold takeReply
  simp only [h]
  rfl

/-- **Whatever happens to a board, its queries stay orderly.** -/
theorem kept_orderly (honest : StoreSource.Honest unanswered) :
    Kept unanswered (Orderly unanswered) where
  still := by
    intro b b' hstill h
    unfold Orderly
    rw [hstill.view, hstill.timer]
    exact h.perm (hstill.unanswered.filterMap Mark.getNumber?)
  told := fun event now hevent h => orderly_tell honest h hevent now
  took := by
    intro b reply source now hpoll h
    obtain ⟨horderly, hlatest⟩ := orderly_polled honest h hpoll
    have hstep := View.Orderly.handle horderly (.ofReply reply) now.wall fun result he =>
      ⟨(hlatest result he).1, (hlatest result he).2.1⟩
    unfold takeReply
    dsimp only
    split
    · exact orderly_carryOutAll honest now hstep
    · exact orderly_carryOutAll honest now hstep
  fired := by
    intro b due now _ _ h
    have hstopped : ({ b with refetchAt? := none } : Board σ).Orderly unanswered := h.stop
    exact orderly_tell honest hstopped rfl now

/-- **No refetch is planned while a query is on its way.**  Take a board on an honest source, after
any run and any number of the replies that are there.

* If the timer is set, the latest query was sent and its outcome has been taken; so this holds when
  the timer fires.
* A reply that asks for the timer answers the latest query.  The timer was not set before, and it is
  set once.

And in every step of a view, the timer is stopped before a query is sent and not set, and it is set
exactly by the outcome of the latest query. -/
theorem refetch_waits (honest : StoreSource.Honest unanswered) {source : σ}
    (hidle : unanswered source = []) {settings : ViewSettings} {theme : Theme}
    {history : List (Board σ × Act σ)} {b : Board σ}
    (run : Run (boards unanswered source settings theme) history b) (clock : Nat → Clock)
    (n : Nat) :
    ((drain clock n b).refetchAt?.isSome → 1 ≤ (drain clock n b).view.getsIssued ∧
      .get (drain clock n b).view.getsIssued ∉ unanswered (drain clock n b).source) ∧
    (∀ reply rest delay now, StoreSource.poll? (drain clock n b).source = some (reply, rest) →
      .armRefetch delay ∈ ((drain clock n b).view.handle (.ofReply reply) now.wall).effects →
        reply.mark = .get (drain clock n b).view.getsIssued ∧
        (drain clock n b).refetchAt? = none ∧
        (∃ first : View.Effect, first.onTimer = false ∧
          ((drain clock n b).view.handle (.ofReply reply) now.wall).effects
            = [first, .armRefetch delay]) ∧
        ({ drain clock n b with source := rest }.takeReply reply now).refetchAt?
          = some (now.steady + delay)) ∧
    ∀ (v : View) (e : View.Event) (time : UInt64),
      (∀ call, .get call ∈ (v.handle e time).effects → ∃ before,
        (v.handle e time).effects = before ++ [.get call] ∧ .cancelRefetch ∈ before ∧
          ∀ delay, .armRefetch delay ∉ before) ∧
      ((∃ delay, .armRefetch delay ∈ (v.handle e time).effects) ↔
        ∃ result, e = .getCompleted v.getsIssued result) := by
  have hstart : (Board.of source settings theme).Orderly unanswered := by
    have hnone : (unanswered source).filterMap Mark.getNumber? = [] := by rw [hidle]; rfl
    exact ⟨by simp [Board.of, hnone], by simp [Board.of, hnone], nofun⟩
  have horderly : (drain clock n b).Orderly unanswered :=
    (kept_orderly honest).drain ((kept_orderly honest).of_run hstart run) clock n
  refine ⟨?_, ?_, fun v e time => ⟨fun call => View.effects_of_get, View.arms_iff v e time⟩⟩
  · intro hset
    obtain ⟨hsent, hanswered⟩ := horderly.waits hset
    exact ⟨hsent, fun hmem => hanswered (Mark.mem_numbers.2 hmem)⟩
  · intro reply rest delay now hpoll harms
    obtain ⟨first, hfirst, heffects⟩ := View.effects_of_arms harms
    obtain ⟨⟨result, hlatest⟩, -⟩ := View.rearmed_of_arms harms
    obtain ⟨-, -, hnotset⟩ := (orderly_polled honest horderly hpoll).2 result hlatest
    refine ⟨?_, hnotset, ⟨first, hfirst, heffects⟩, takeReply_refetchAt? now heffects⟩
    cases reply with
    | list level generation result => cases hlatest
    | get generation result =>
        cases hlatest
        rfl

/-- A board before a store of one interface asks for all it needs; the reply to its query is
there. -/
def queried : List (Act Courier) :=
  let now : Clock := ⟨0, 0⟩
  let comes (reply : StoreReply) : Act Courier :=
    .around (.of ⟨"", [], [reply], 1⟩ default .dark)
  [.start now, comes (.list .top 1 Cascade.oneInterface), .tick (fun _ => now) now,
    comes (.list .interfaces 1 Cascade.oneInterface), .tick (fun _ => now) now,
    comes (.get 1 (.ok ⟨true, none, []⟩))]

/-- The boards over a courier, without preferences. -/
abbrev plainBoards : System (Board Courier) (Act Courier) :=
  boards Courier.unanswered (.toStore "") default .dark

lemma run_queried :
    Run plainBoards (plainBoards.trace plainBoards.start queried)
      (plainBoards.after plainBoards.start queried) :=
  Run.start.extend queried (by decide)

/-- The reply is taken: the timer was not set and is now, and the query is not on its way any
more. -/
theorem refetch_waits_queried :
    (plainBoards.after plainBoards.start queried).refetchAt? = none ∧
    (drain (fun _ => ⟨0, 0⟩) 1 (plainBoards.after plainBoards.start queried)).refetchAt?
      = some 30000 ∧
    Mark.get 1 ∉ Courier.unanswered
      (drain (fun _ => ⟨0, 0⟩) 1 (plainBoards.after plainBoards.start queried)).source := by
  obtain ⟨-, harms, -⟩ := refetch_waits Courier.honest rfl run_queried (fun _ => ⟨0, 0⟩) 0
  obtain ⟨-, hnotset, -, hset⟩ := harms (.get 1 (.ok ⟨true, none, []⟩)) ⟨"", [], [], 0⟩
    View.refetchDelay ⟨0, 0⟩ rfl (by decide)
  have hset : (drain (fun _ => ⟨0, 0⟩) 1 (plainBoards.after plainBoards.start queried)).refetchAt?
      = some 30000 := hset
  obtain ⟨hwaits, -⟩ := refetch_waits Courier.honest rfl run_queried (fun _ => ⟨0, 0⟩) 1
  have hissued : (drain (fun _ => ⟨0, 0⟩) 1
      (plainBoards.after plainBoards.start queried)).view.getsIssued = 1 := by decide
  exact ⟨hnotset, hset, hissued ▸ (hwaits (Option.isSome_iff_exists.2 ⟨_, hset⟩)).2⟩

end Board

end Meterboard
