import Meterboard.Proofs.Board.Turn
import Meterboard.Proofs.View.Drawn

/-!
# The replies of a tick

A tick takes the replies that are there.  Taking one may submit calls whose replies are there at
once, and it decides which of the replies behind it come too late.  The board finds out from the
effects: a reply that came too late has none.

**Replies.**  `Board.replies` lists the replies of a tick, each with the board that meets it and the
clocks at that time, and `Takes` is the road from one to the next.  `View.counts` tells the replies
that do not come too late.

**One reply.**  A reply that counts has effects, and it tells the user of a failure or of nothing
(`notices_of_counts`, `effects_of_counts`).  Hence the status after it is its own
(`takeReply_lastError?`), while one that came too late only adds to the journal
(`takeReply_of_late`).

**A tick.**  `status_of_tick` — by induction on the road, the status is that of the last reply that
counted.
-/

namespace Meterboard

/-- What the user is told of a reply that failed. -/
def StoreReply.failure? : StoreReply → Option String
  | .list _ _ (.error e) => some e.userMessage
  | .get _ (.error e) => some e.userMessage
  | _ => none

lemma StoreReply.isOk_eq (reply : StoreReply) : reply.isOk = reply.failure?.isNone := by
  rcases reply with ⟨level, generation, _ | _⟩ | ⟨generation, _ | _⟩ <;> rfl

namespace View

/-! ## One reply -/

/-- The reply answers the latest call of its kind. -/
def counts (v : View) (reply : StoreReply) : Bool := !v.stale (.ofReply reply)

/-- A failure is told, and nothing else. -/
lemma notices_of_counts {v : View} {reply : StoreReply} (h : v.counts reply = true)
    (now : UInt64) :
    (v.handle (.ofReply reply) now).effects.filterMap Effect.notice? = reply.failure?.toList := by
  rw [handle_notices]
  cases reply with
  | list level generation result =>
      have hlatest : generation = v.cascade.issued level := by
        simpa [counts, stale, Event.ofReply] using h
      cases result with
      | ok response => rfl
      | error e => simp [Event.ofReply, refusal?, hlatest, StoreReply.failure?, Effect.notice?]
  | get generation result =>
      have hlatest : generation = v.getsIssued := by
        simpa [counts, stale, Event.ofReply] using h
      cases result with
      | ok response => rfl
      | error e => simp [Event.ofReply, refusal?, hlatest, StoreReply.failure?, Effect.notice?]

/-- A reply that counts has effects: a failure is told, and all else is drawn. -/
lemma effects_of_counts {v : View} {reply : StoreReply} (h : v.counts reply = true)
    (now : UInt64) : (v.handle (.ofReply reply) now).effects ≠ [] := by
  intro hnone
  have hnotices := notices_of_counts h now
  rw [hnone] at hnotices
  have hrender : .render ∈ (v.handle (.ofReply reply) now).effects := by
    refine render_of_accepted (by simpa [counts] using h) ?_ ?_ ?_ now
    · rcases reply with ⟨level, generation, _ | _⟩ | ⟨generation, _ | _⟩
      · cases hnotices
      · rfl
      · cases hnotices
      · rfl
    · cases reply <;> nofun
    · cases reply <;> nofun
  rw [hnone] at hrender
  cases hrender

end View

namespace Board

variable {σ : Type}

/-- A reply that is taken. -/
structure Taken (σ : Type) where
  /-- The board that meets it. -/
  board : Board σ
  reply : StoreReply
  now : Clock

/-- The reply, if it counts. -/
def Taken.counted? (x : Taken σ) : Option StoreReply :=
  if x.board.view.counts x.reply then some x.reply else none

/-- The time of the reply on the steady clock, if it counts and succeeded. -/
def Taken.updated? (x : Taken σ) : Option Nat :=
  if x.board.view.counts x.reply && x.reply.isOk then some x.now.steady else none

variable [StoreSource σ]

/-- The last notice among effects is the one that stays. -/
lemma carryOutAll_lastError? (now : Clock) (b : Board σ) (es : List View.Effect) :
    (b.carryOutAll now es).lastError? = (latest? View.Effect.notice? es).or b.lastError? := by
  induction es generalizing b with
  | nil => rfl
  | cons effect es ih =>
      have heffect : (b.carryOut now effect).lastError?
          = (View.Effect.notice? effect).or b.lastError? := by cases effect <;> rfl
      rw [latest?_cons, Option.or_assoc, ← heffect]
      exact ih (b.carryOut now effect)

lemma carryOutAll_lastUpdate? (now : Clock) (b : Board σ) (es : List View.Effect) :
    (b.carryOutAll now es).lastUpdate? = b.lastUpdate? := by
  refine carryOutAll_keeps (·.lastUpdate?) now ?_ b es
  intro b effect
  cases effect <;> rfl

/-- A reply that came too late is mentioned in the journal, and that is all. -/
lemma takeReply_of_late {b : Board σ} {reply : StoreReply} (h : b.view.counts reply = false)
    (now : Clock) : ∃ log, b.takeReply reply now = b.say log := by
  have hstale : b.view.stale (.ofReply reply) = true := by simpa [View.counts] using h
  obtain ⟨hview, heffects⟩ := View.handle_of_stale hstale now.wall
  refine ⟨(b.view.handle (.ofReply reply) now.wall).log, ?_⟩
  unfold takeReply
  simp only [hview, heffects, List.isEmpty_nil, Bool.not_true, Bool.and_false, Bool.false_eq_true,
    if_false]
  rfl

/-- After a reply that counts, the last error is its own. -/
lemma takeReply_lastError? {b : Board σ} {reply : StoreReply} (h : b.view.counts reply = true)
    (now : Clock) : (b.takeReply reply now).lastError? = reply.failure? := by
  have hnotices := View.notices_of_counts h now.wall
  have heffects : (b.view.handle (.ofReply reply) now.wall).effects.isEmpty = false := by
    simpa using View.effects_of_counts h now.wall
  unfold takeReply
  dsimp only
  rw [carryOutAll_lastError?, latest?, hnotices, StoreReply.isOk_eq, heffects]
  cases reply.failure? with
  | none => rfl
  | some message => rfl

/-- A reply moves the time of the last success if it counts and succeeded. -/
lemma takeReply_lastUpdate? (b : Board σ) (reply : StoreReply) (now : Clock) :
    (b.takeReply reply now).lastUpdate? = (Taken.updated? ⟨b, reply, now⟩).or b.lastUpdate? := by
  cases hcounts : b.view.counts reply with
  | false =>
      obtain ⟨log, hlog⟩ := takeReply_of_late hcounts now
      simp only [hlog, Taken.updated?, hcounts, Bool.false_and, Bool.false_eq_true, if_false]
      rfl
  | true =>
      have heffects : (b.view.handle (.ofReply reply) now.wall).effects.isEmpty = false := by
        simpa using View.effects_of_counts hcounts now.wall
      unfold takeReply
      dsimp only
      rw [carryOutAll_lastUpdate?, heffects]
      cases hok : reply.isOk <;> simp [Taken.updated?, hcounts, hok, succeeded, say]

/-! ## A tick -/

/-- The replies that are taken, at most so many, each with the board that meets it. -/
def taken (clock : Nat → Clock) : Nat → Board σ → List (Taken σ)
  | 0, _ => []
  | n + 1, b =>
      match StoreSource.poll? b.source with
      | none => []
      | some (reply, source) =>
          ⟨{ b with source }, reply, clock 0⟩
            :: taken (fun k => clock (k + 1)) n ({ b with source }.takeReply reply (clock 0))

/-- The replies of a tick. -/
def replies (b : Board σ) (clock : Nat → Clock) : List (Taken σ) :=
  taken clock (StoreSource.pending b.source) b

/-- The road of a board that takes replies one after the other: each is polled from the source that
the one before it left behind. -/
inductive Takes : Board σ → List (Taken σ) → Board σ → Prop
  | done (b : Board σ) : Takes b [] b
  | reply {b b' : Board σ} {reply : StoreReply} {source : σ} {now : Clock}
      {rest : List (Taken σ)} :
      StoreSource.poll? b.source = some (reply, source) →
      Takes ({ b with source }.takeReply reply now) rest b' →
      Takes b (⟨{ b with source }, reply, now⟩ :: rest) b'

lemma takes_drain (clock : Nat → Clock) (n : Nat) (b : Board σ) :
    Takes b (taken clock n b) (drain clock n b) := by
  induction n generalizing b clock with
  | zero => exact .done b
  | succ n ih =>
      unfold taken drain
      cases hpoll : StoreSource.poll? b.source with
      | none => exact .done b
      | some polled => exact .reply hpoll (ih _ _)

/-- The last error is that of the last reply that counted; without one it is what it was. -/
lemma Takes.lastError? {b b' : Board σ} {xs : List (Taken σ)} (h : Takes b xs b') :
    b'.lastError? = (latest? Taken.counted? xs).elim b.lastError? StoreReply.failure? := by
  induction h with
  | done b => rfl
  | @reply b b' reply source now rest _ _ ih =>
      rw [ih, latest?_cons]
      cases hlatest : latest? Taken.counted? rest with
      | some last => rfl
      | none =>
          -- this reply is the last one that may count
          cases hcounts : View.counts b.view reply with
          | true =>
              have herror := takeReply_lastError? (b := { b with source }) hcounts now
              simpa [Taken.counted?, hcounts] using herror
          | false =>
              obtain ⟨log, hlog⟩ := takeReply_of_late (b := { b with source }) hcounts now
              simp [Taken.counted?, hcounts, hlog, say]

/-- The time of the last success is that of the last reply that counted and succeeded. -/
lemma Takes.lastUpdate? {b b' : Board σ} {xs : List (Taken σ)} (h : Takes b xs b') :
    b'.lastUpdate? = (latest? Taken.updated? xs).or b.lastUpdate? := by
  induction h with
  | done b => rfl
  | @reply b b' reply source now rest _ _ ih =>
      rw [ih, takeReply_lastUpdate?, latest?_cons, Option.or_assoc]

/-- The timer says nothing. -/
lemma fireRefetch_status (b : Board σ) (now : Clock) :
    (b.fireRefetch now).lastError? = b.lastError? ∧
      (b.fireRefetch now).lastUpdate? = b.lastUpdate? := by
  have htell : ∀ b : Board σ, (b.tell .refetch now).lastError? = b.lastError? ∧
      (b.tell .refetch now).lastUpdate? = b.lastUpdate? := by
    intro b
    have hnotices :
        latest? View.Effect.notice? (b.view.handle .refetch now.wall).effects = none := by
      rw [latest?, View.handle_notices]
      rfl
    refine ⟨?_, carryOutAll_lastUpdate? now _ _⟩
    rw [tell, carryOutAll_lastError?, hnotices]
    rfl
  unfold fireRefetch
  split
  · split
    · exact htell { b with refetchAt? := none }
    · exact ⟨rfl, rfl⟩
  · exact ⟨rfl, rfl⟩

/-- **The status shows the last reply that counted.**  A tick takes replies and then looks at its
timer, and reads the clocks each time.  Take any board, and any replies that are taken from it one
after the other.

* The last error is what is told of the last reply that counted: its failure, or nothing if it
  succeeded.  If all of them came too late, it is what it was.
* The time of the last success is that of the last reply that counted and succeeded.  If there is
  none, it is what it was.
* Whatever the board, taking a reply that came too late adds to its journal and changes nothing
  else. -/
theorem status_of_tick (b : Board σ) :
    (∀ clock now, ∃ b', Takes b (b.replies clock) b' ∧ b.tick clock now = b'.fireRefetch now) ∧
    (∀ xs b' now, Takes b xs b' →
      (b'.fireRefetch now).lastError?
        = (latest? Taken.counted? xs).elim b.lastError? StoreReply.failure? ∧
      (b'.fireRefetch now).lastUpdate? = (latest? Taken.updated? xs).or b.lastUpdate?) ∧
    ∀ (b' : Board σ) (reply : StoreReply) (now : Clock), b'.view.counts reply = false →
      ∃ log, b'.takeReply reply now = b'.say log := by
  refine ⟨fun clock now => ⟨_, takes_drain clock _ b, rfl⟩, fun xs b' now htakes => ?_,
    fun b' reply now hlate => takeReply_of_late hlate now⟩
  obtain ⟨herror, hupdate⟩ := fireRefetch_status b' now
  exact ⟨herror.trans htakes.lastError?, hupdate.trans htakes.lastUpdate?⟩

/-- A board whose first listing failed; behind that reply waits one of a listing that it never
sent. -/
def failing : Board Courier :=
  { (Board.of (Courier.toStore "") default .dark).start ⟨0, 0⟩ with
    source := ⟨"", [], [.list .top 1 (.error (.transport .list .timeout)),
      .list .top 0 Cascade.oneInterface], 1⟩ }

/-- The reply behind the failure came too late, so its success does not take the error away. -/
theorem status_of_tick_failing :
    (failing.tick (fun k => ⟨5, k⟩) ⟨5, 5⟩).lastError?
      = some "Error in /list request: Request timed out" ∧
    (failing.tick (fun k => ⟨5, k⟩) ⟨5, 5⟩).lastUpdate? = none := by
  obtain ⟨hticks, hstatus, -⟩ := status_of_tick failing
  obtain ⟨b', htakes, htick⟩ := hticks (fun k => ⟨5, k⟩) ⟨5, 5⟩
  obtain ⟨herror, hupdate⟩ := hstatus _ _ ⟨5, 5⟩ htakes
  exact ⟨htick ▸ herror, htick ▸ hupdate⟩

end Board

end Meterboard
