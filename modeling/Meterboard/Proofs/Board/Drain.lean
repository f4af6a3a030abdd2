import Meterboard.Proofs.Board.Replies
import Meterboard.Proofs.View.Ready

/-!
# A tick comes to an end

A tick takes replies until none is left, and the calls that it submits meanwhile may be answered at
once.  So the loop feeds itself, and what bounds it is not the number of replies that wait when it
begins.

**Follow-ups.**  `Follows` — after a listing of the top level comes at most one of the interfaces,
after that at most one query, and after a query nothing.  `follows_handle` says that this is all
that a reply leads to, whatever the view and the reply.

**Measures.**  `work` counts the calls without an answer by the replies that they may come to: three
for a listing of the top level, two for one of the interfaces, one for a query.  For an honest
source this bounds the replies to come, and so does what a source tells the board of itself, by its
own laws (`Honest.bounds`, `bounds_pending`).  Whatever bounds them is lowered by a reply that is
taken (`Bounds.lt`), so that no road is longer (`Takes.length_le`) and a loop that may go on for as
long has nothing left (`poll?_drain`).

**The end.**  `drain_ends` — over every source that answers a call at most once, the loop comes to a
board that has nothing left to take.  `Courier.pending_eq_work` is that a courier tells the board of
just the work that lies ahead.
-/

namespace Meterboard

/-! ## Unanswered calls -/

namespace Mark

/-- The call is a listing of the level. -/
def isListing (level : Level) : Mark → Bool
  | .list l _ => l = level
  | .get _ => false

/-- The call is a query. -/
def isQuery : Mark → Bool
  | .list _ _ => false
  | .get _ => true

/-- The replies that a call may come to: its own, and those of the calls that follow. -/
def weight : Mark → Nat
  | .list level _ => level.weight
  | .get _ => 1

lemma weight_pos (m : Mark) : 0 < m.weight := by
  rcases m with ⟨_ | _, generation⟩ | generation
  · exact Nat.succ_pos 2
  · exact Nat.succ_pos 1
  · exact Nat.succ_pos 0

end Mark

/-- The replies that some calls may come to. -/
def work (ms : List Mark) : Nat :=
  3 * ms.countP (Mark.isListing .top) + 2 * ms.countP (Mark.isListing .interfaces)
    + ms.countP Mark.isQuery

lemma work_cons (m : Mark) (ms : List Mark) : work (m :: ms) = m.weight + work ms := by
  simp only [work, List.countP_cons]
  rcases m with ⟨_ | _, generation⟩ | generation <;>
    simp [Mark.isListing, Mark.isQuery, Mark.weight, Level.weight] <;> omega

lemma work_append (ms ms' : List Mark) : work (ms ++ ms') = work ms + work ms' := by
  induction ms with
  | nil => simp [work]
  | cons m ms ih => rw [List.cons_append, work_cons, work_cons, ih, Nat.add_assoc]

lemma work_perm {ms ms' : List Mark} (h : ms.Perm ms') : work ms = work ms' := by
  simp only [work, h.countP_eq]

/-- The work of some marks is the total weight of what bears them. -/
lemma totalWeight_eq_work {α : Type} {weight : α → Nat} {mark : α → Mark}
    (h : ∀ x, (mark x).weight = weight x) (xs : List α) :
    totalWeight weight xs = work (xs.map mark) := by
  induction xs with
  | nil => rfl
  | cons x xs ih => rw [totalWeight, List.map_cons, work_cons, h, ih]

lemma StoreCall.weight_mark (call : StoreCall) : call.mark.weight = call.weight := by
  cases call <;> rfl

lemma StoreReply.weight_mark (reply : StoreReply) : reply.mark.weight = reply.weight := by
  cases reply <;> rfl

/-- The calls that the answer to a call leads to. -/
inductive Follows : Mark → List Mark → Prop
  | nothing (m : Mark) : Follows m []
  | interfaces (generation next : Nat) :
      Follows (.list .top generation) [.list .interfaces next]
  | query (generation next : Nat) : Follows (.list .interfaces generation) [.get next]

/-- What follows a call is less work than the call. -/
lemma Follows.work_lt {m : Mark} {ms : List Mark} (h : Follows m ms) : work ms < m.weight := by
  cases h with
  | nothing => exact m.weight_pos
  | interfaces => exact Nat.lt_succ_self 2
  | query => exact Nat.lt_succ_self 1

/-! ## One reply -/

/-- Only a listing of the top level asks for another listing, and that is one of interfaces. -/
lemma Cascade.level_of_topReady {c : Cascade} {level : Level} {generation : Nat}
    {result : Except StoreError ListResponse} {call : ListCall}
    (h : (c.apply level generation result).outcome = .topReady call) :
    level = .top ∧ call.level = .interfaces := by
  have hcall : (c.perform (.apply level generation result)).2 = some call := by
    simp [perform, h, Outcome.call?]
  have hmoves := moves_perform c (.apply level generation result)
  generalize c.perform (.apply level generation result) = moved at hcall hmoves
  cases hmoves with
  | refused _ => cases hcall
  | asked hd _ =>
      cases hd
      cases hcall
      exact ⟨rfl, rfl⟩
  | cleared _ _ => cases hcall
  | listed => cases hcall

namespace View

lemma fetch_marks (v : View) (now : UInt64) :
    (v.fetch now).effects.filterMap Effect.mark? = [] ∨
      ∃ n, (v.fetch now).effects.filterMap Effect.mark? = [.get n] := by
  rcases fetch_cases v now with ⟨_, _, _, -, -, -, heffects⟩ | ⟨-, -, heffects⟩
  · exact .inr ⟨v.getsIssued + 1, by rw [heffects]; rfl⟩
  · exact .inl (by rw [heffects]; rfl)

/-- **What a reply leads to**, whatever the view: it may come too late, fail or succeed. -/
lemma follows_handle (v : View) (reply : StoreReply) (now : UInt64) :
    Follows reply.mark ((v.handle (.ofReply reply) now).effects.filterMap Effect.mark?) := by
  cases reply with
  | list level generation result =>
      unfold Event.ofReply handle takeList
      dsimp only
      split
      · exact .nothing _
      · exact .nothing _
      · rename_i call hcall
        obtain ⟨rfl, hlevel⟩ := Cascade.level_of_topReady hcall
        have hmarks : [Effect.render, .list call].filterMap Effect.mark?
            = [.list .interfaces call.generation] := by rw [← hlevel]; rfl
        rw [hmarks]
        exact .interfaces generation call.generation
      · exact .nothing _
      · rename_i hready
        obtain ⟨rfl, -⟩ := Cascade.outcome_ready hready
        rcases fetch_marks _ now with hmarks | ⟨next, hmarks⟩
        · exact hmarks ▸ .nothing _
        · exact hmarks ▸ .query generation next
  | get generation result =>
      unfold Event.ofReply handle takeGet
      dsimp only
      split
      · exact .nothing _
      · cases result <;> exact .nothing _

end View

/-! ## Measures -/

/-- A measure of a source that bounds the replies to come: a call adds no more than its weight, and
a reply takes away its own. -/
structure StoreSource.Bounds {σ : Type} [StoreSource σ] (measure : σ → Nat) : Prop where
  submit : ∀ (s : σ) (call : StoreCall),
    measure (StoreSource.submit s call) ≤ measure s + call.weight
  poll : ∀ {s rest : σ} {reply : StoreReply}, StoreSource.poll? s = some (reply, rest) →
    measure rest + reply.weight ≤ measure s

section Measures

variable {σ : Type} [StoreSource σ] {unanswered : σ → List Mark} {measure : σ → Nat}

/-- What a source tells the board bounds the replies to come. -/
lemma StoreSource.bounds_pending : StoreSource.Bounds (StoreSource.pending (σ := σ)) :=
  ⟨StoreSource.pending_submit, StoreSource.pending_poll⟩

/-- For an honest source the work that lies ahead bounds the replies to come. -/
lemma StoreSource.Honest.bounds (honest : StoreSource.Honest unanswered) :
    StoreSource.Bounds fun s => work (unanswered s) where
  submit := by
    intro s call
    refine Nat.le_of_eq ?_
    rw [work_perm (honest.submit s call), work_cons, call.weight_mark, Nat.add_comm]
  poll := by
    intro s rest reply hpoll
    refine Nat.le_of_eq ?_
    rw [work_perm (honest.poll s hpoll), work_cons, reply.weight_mark, Nat.add_comm]

namespace StoreSource.Bounds

/-- Effects add no more than the calls among them. -/
lemma carryOutAll (bounds : StoreSource.Bounds measure) (now : Clock) (b : Board σ)
    (es : List View.Effect) : measure (b.carryOutAll now es).source
      ≤ measure b.source + work (es.filterMap View.Effect.mark?) := by
  induction es generalizing b with
  | nil => exact Nat.le_add_right _ _
  | cons effect es ih =>
      refine Nat.le_trans (ih (b.carryOut now effect)) ?_
      cases effect with
      | list call =>
          have hcall : View.Effect.mark? (.list call) = some (StoreCall.list call).mark := rfl
          have hadded := bounds.submit b.source (.list call)
          rw [List.filterMap_cons_some hcall, work_cons, StoreCall.weight_mark]
          dsimp only [Board.carryOut]
          omega
      | get call =>
          have hcall : View.Effect.mark? (.get call) = some (StoreCall.get call).mark := rfl
          have hadded := bounds.submit b.source (.get call)
          rw [List.filterMap_cons_some hcall, work_cons, StoreCall.weight_mark]
          dsimp only [Board.carryOut]
          omega
      | render => exact Nat.le_refl _
      | armRefetch delay => exact Nat.le_refl _
      | cancelRefetch => exact Nat.le_refl _
      | notice message => exact Nat.le_refl _

/-- A reply that is taken leaves less, also where it submits a call. -/
lemma lt (bounds : StoreSource.Bounds measure) {b : Board σ} {reply : StoreReply} {source : σ}
    (hpoll : StoreSource.poll? b.source = some (reply, source)) (now : Clock) :
    measure ({ b with source }.takeReply reply now).source < measure b.source := by
  have hfollows := (View.follows_handle b.view reply now.wall).work_lt
  rw [reply.weight_mark] at hfollows
  have hpolled := bounds.poll hpoll
  have hsubmitted : measure ({ b with source }.takeReply reply now).source ≤ measure source
      + work ((b.view.handle (.ofReply reply) now.wall).effects.filterMap View.Effect.mark?) := by
    unfold Board.takeReply
    dsimp only
    split <;> exact bounds.carryOutAll now _ _
  omega

end StoreSource.Bounds

namespace Board

/-! ## The loop -/

/-- No road is longer than what bounds the replies to come. -/
lemma Takes.length_le (bounds : StoreSource.Bounds measure) {b b' : Board σ} {xs : List (Taken σ)}
    (h : Takes b xs b') : xs.length ≤ measure b.source := by
  induction h with
  | done b => exact Nat.zero_le _
  | @reply b b' reply source now rest hpoll _ ih =>
      have hless := bounds.lt hpoll now
      rw [List.length_cons]
      omega

/-- A loop that has nothing to take stays where it is. -/
lemma drain_of_none {b : Board σ} (h : StoreSource.poll? b.source = none) (clock : Nat → Clock)
    (n : Nat) : taken clock n b = [] ∧ drain clock n b = b := by
  cases n with
  | zero => exact ⟨rfl, rfl⟩
  | succ n => simp only [taken, drain, h, and_self]

/-- A loop that may go on for that long has nothing left. -/
lemma poll?_drain (bounds : StoreSource.Bounds measure) {n : Nat} {b : Board σ}
    (h : measure b.source ≤ n) (clock : Nat → Clock) :
    StoreSource.poll? (drain clock n b).source = none := by
  induction n generalizing b clock with
  | zero =>
      cases hpoll : StoreSource.poll? b.source with
      | none => exact hpoll
      | some polled =>
          have hless := bounds.lt hpoll (clock 0)
          omega
  | succ n ih =>
      unfold drain
      cases hpoll : StoreSource.poll? b.source with
      | none => exact hpoll
      | some polled =>
          have hless := bounds.lt hpoll (clock 0)
          exact ih (by omega) _

/-- Loops that have nothing left are the same, however long they may go on. -/
lemma drain_eq {clock : Nat → Clock} {m n : Nat} {b : Board σ}
    (hm : StoreSource.poll? (drain clock m b).source = none)
    (hn : StoreSource.poll? (drain clock n b).source = none) :
    taken clock m b = taken clock n b ∧ drain clock m b = drain clock n b := by
  induction m generalizing n b clock with
  | zero =>
      obtain ⟨htaken, hdrain⟩ := drain_of_none hm clock n
      exact ⟨htaken.symm, hdrain.symm⟩
  | succ m ih =>
      cases hpoll : StoreSource.poll? b.source with
      | none =>
          obtain ⟨htaken, hdrain⟩ := drain_of_none hpoll clock n
          simp only [taken, drain, hpoll, htaken, hdrain, and_self]
      | some polled =>
          cases n with
          | zero =>
              have hnone : StoreSource.poll? b.source = none := hn
              cases hnone.symm.trans hpoll
          | succ n =>
              simp only [drain, hpoll] at hm hn
              obtain ⟨htaken, hdrain⟩ := ih hm hn
              simp only [taken, drain, hpoll, htaken, hdrain, and_self]

end Board

end Measures

/-! ## Couriers -/

/-- A courier tells the board of all the work that lies ahead, and of no more. -/
lemma Courier.pending_eq_work (c : Courier) : StoreSource.pending c = work c.unanswered := by
  have hcalls := totalWeight_eq_work StoreCall.weight_mark c.running
  have hreplies := totalWeight_eq_work StoreReply.weight_mark c.finished
  rw [unanswered, work_append, ← hcalls, ← hreplies]
  rfl

/-! ## Answers at once -/

/-- A source that answers every call at once; a listing always names one interface. -/
structure Prompt where
  waiting : List StoreReply

namespace Prompt

/-- The reply to a call. -/
def answer : StoreCall → StoreReply
  | .list call => .list call.level call.generation Cascade.oneInterface
  | .get call => .get call.generation (.ok ⟨true, none, []⟩)

/-- The calls whose replies wait. -/
def unanswered (s : Prompt) : List Mark := s.waiting.map StoreReply.mark

instance : StoreSource Prompt where
  submit s call := ⟨s.waiting ++ [answer call]⟩
  poll? s :=
    match s.waiting with
    | [] => none
    | reply :: rest => some (reply, ⟨rest⟩)
  description _ := "prompt"
  inFlight s := s.waiting.length
  pending s := work s.unanswered
  pending_submit s call := by
    have hmark : (answer call).mark = call.mark := by cases call <;> rfl
    refine Nat.le_of_eq ?_
    rw [unanswered, List.map_append, work_append, List.map_singleton, work_cons, hmark,
      call.weight_mark]
    rfl
  pending_poll := by
    rintro ⟨_ | ⟨first, waiting⟩⟩ rest reply hpoll
    · cases hpoll
    · cases hpoll
      refine Nat.le_of_eq ?_
      rw [unanswered, unanswered, List.map_cons, work_cons, StoreReply.weight_mark, Nat.add_comm]

lemma honest : StoreSource.Honest unanswered where
  submit := by
    rintro ⟨waiting⟩ call
    have hmark : (answer call).mark = call.mark := by cases call <;> rfl
    simp only [unanswered, StoreSource.submit, List.map_append, List.map_cons, List.map_nil, hmark]
    exact List.perm_append_singleton _ _
  poll := by
    rintro ⟨_ | ⟨first, waiting⟩⟩ reply rest hpoll
    · cases hpoll
    · cases hpoll
      exact .refl _

end Prompt

/-! ## A tick -/

namespace Board

variable {σ : Type} [StoreSource σ] {unanswered : σ → List Mark}

/-- **A tick comes to an end.**  A listing of the top level leads to one of the interfaces at most,
that to one query at most, and a query to nothing.  So over a source that answers each call at most
once, at whatever time, no road of replies is longer than the work that lies ahead: three for each
listing of the top level that has no answer yet, two for each listing of interfaces and one for each
query.  Whatever the clocks show, there is a road to a board that has nothing left to take; every
loop that may go on for as long takes it, and so does a tick before it looks at the timer.  What a
courier tells the board is just the work that lies ahead. -/
theorem drain_ends (honest : StoreSource.Honest unanswered) (b : Board σ) :
    (∀ (v : View) (reply : StoreReply) (now : UInt64), Follows reply.mark
      ((v.handle (.ofReply reply) now).effects.filterMap View.Effect.mark?)) ∧
    (∀ xs b', Takes b xs b' → xs.length ≤ work (unanswered b.source)) ∧
    (∀ clock now, ∃ xs b', Takes b xs b' ∧ StoreSource.poll? b'.source = none ∧
      (∀ n, work (unanswered b.source) ≤ n → taken clock n b = xs ∧ drain clock n b = b') ∧
      b.replies clock = xs ∧ b.tick clock now = b'.fireRefetch now) ∧
    ∀ c : Courier, StoreSource.pending c = work c.unanswered := by
  refine ⟨View.follows_handle, fun xs b' => Takes.length_le honest.bounds, fun clock now => ?_,
    Courier.pending_eq_work⟩
  have hend : StoreSource.poll? (drain clock (StoreSource.pending b.source) b).source = none :=
    poll?_drain StoreSource.bounds_pending (Nat.le_refl _) clock
  exact ⟨_, _, takes_drain clock _ b, hend,
    fun n hn => drain_eq (poll?_drain honest.bounds hn clock) hend, rfl, rfl⟩

/-- A board that has asked for metrics and hosts. -/
def asking : Board Prompt := (Board.of ⟨[]⟩ default .dark).start ⟨0, 0⟩

/-- One reply waits when the tick begins, and three are taken: the bound is reached. -/
theorem drain_ends_prompt :
    StoreSource.Honest Prompt.unanswered ∧ work asking.source.unanswered = 3 ∧
    (asking.replies fun k => ⟨5, k⟩).length = 3 ∧
    ∃ b' : Board Prompt, asking.tick (fun k => ⟨5, k⟩) ⟨5, 5⟩ = b'.fireRefetch ⟨5, 5⟩ ∧
      StoreSource.poll? b'.source = none := by
  obtain ⟨-, -, hticks, -⟩ := drain_ends Prompt.honest asking
  obtain ⟨_, b', -, hend, -, -, htick⟩ := hticks (fun k => ⟨5, k⟩) ⟨5, 5⟩
  exact ⟨Prompt.honest, by decide, by decide, b', htick, hend⟩

end Board

end Meterboard
