import Meterboard.Proofs.Run
import Meterboard.Proofs.Store.Source
import Meterboard.Proofs.Store.Transport

/-!
# No reply is lost

A call is in one of three places: it runs, its reply waits, or its reply was taken.  Submitting puts
it into the first, finishing takes it to the second and polling to the third, and nothing else
happens to it.  So at any time the three places hold the calls that were submitted, each once, in
whatever order calls finish and the board polls.

* `Courier.Act`, `couriers` — what happens to a courier.
* `submitted`, `answered`, `polled` — what a history says of calls and replies.
* `Answers` — the reply to a call is of its kind, bears its mark and holds its outcome.
* `Accounted` — the books of a courier; `accounted` — they are right after every run.
* `calls_accounted` — what that means for the calls, the replies and the count.
* `run_runAll` — running all calls one after the other is one of the orders.
-/

namespace Meterboard.Courier

open Transport (sendRecorded)

/-- The outcome of the exchange of a call. -/
abbrev Answer := Except ExchangeError String

/-- What happens to a courier. -/
inductive Act where
  /-- The board submits a call. -/
  | submit (call : StoreCall)
  /-- The exchange of a running call comes out, and the call finishes. -/
  | finish (place : Nat) (answer : Answer)
  /-- The board asks for a reply. -/
  | poll

/-- The courier after something happened to it. -/
def next (codec : Codec) (c : Courier) : Act → Courier
  | .submit call => c.submit call
  | .finish place answer =>
      c.running[place]?.elim c fun call => c.finish place (replyTo codec answer call).1
  | .poll => c.poll?.elim c (·.2)

/-- Couriers to a store, whose calls finish in any order and with any outcomes. -/
def couriers (codec : Codec) (store : String) : System Courier Act where
  start := toStore store
  allows c
    | .finish place _ => place < c.running.length
    | _ => True
  next := next codec

instance (codec : Codec) (store : String) (c : Courier) :
    DecidablePred ((couriers codec store).allows c)
  | .finish place _ => inferInstanceAs (Decidable (place < c.running.length))
  | .submit _ | .poll => inferInstanceAs (Decidable True)

/-! ## What a history says -/

/-- The calls that were submitted. -/
def submitted (history : List (Courier × Act)) : List StoreCall :=
  history.filterMap fun
    | (_, .submit call) => some call
    | _ => none

/-- The calls that finished, in this order, each with the outcome of its exchange. -/
def answered (history : List (Courier × Act)) : List (StoreCall × Answer) :=
  history.filterMap fun
    | (c, .finish place answer) => c.running[place]?.map (·, answer)
    | _ => none

/-- The replies that the board was given when it asked. -/
def polled (history : List (Courier × Act)) : List StoreReply :=
  history.filterMap fun
    | (c, .poll) => c.poll?.map (·.1)
    | _ => none

/-- A reply answers a call whose exchange came out in some way: it is of the same kind, bears the
same mark and holds what sending the request came to. -/
inductive Answers (codec : Codec) : StoreCall × Answer → StoreReply → Prop
  | list (call : ListCall) (answer : Answer) :
      Answers codec (.list call, answer)
        (.list call.level call.generation (sendRecorded codec answer call.request).1.result)
  | get (call : GetCall) (answer : Answer) :
      Answers codec (.get call, answer)
        (.get call.generation (sendRecorded codec answer call.request).1.result)

/-- A call that finishes comes to its own reply. -/
lemma answers_replyTo (codec : Codec) (answer : Answer) (call : StoreCall) :
    Answers codec (call, answer) (replyTo codec answer call).1 := by
  cases call with
  | list call => exact .list call answer
  | get call => exact .get call answer

/-! ## The books -/

/-- The books of a courier.  Calls that finished are answered by the replies that were taken and
those that wait, in this order. -/
structure Accounted (codec : Codec) (history : List (Courier × Act)) (c : Courier) : Prop where
  calls : (submitted history).Perm (c.running ++ (answered history).map (·.1))
  replies : List.Forall₂ (Answers codec) (answered history) (polled history ++ c.finished)
  count : c.inFlight + (polled history).length = (submitted history).length

section

variable {codec : Codec} {store : String} {history : List (Courier × Act)} {c : Courier}

/-- The count is that of the calls that run and the replies that wait. -/
lemma Accounted.inFlight_eq (h : Accounted codec history c) :
    c.inFlight = c.running.length + c.finished.length := by
  have hcalls := h.calls.length_eq
  have hreplies := h.replies.length_eq
  have hcount := h.count
  simp only [List.length_append, List.length_map] at hcalls hreplies
  omega

/-- A reply that is taken is counted. -/
lemma Accounted.inFlight_poll (h : Accounted codec history c) {reply : StoreReply}
    {rest : Courier} (hpoll : c.poll? = some (reply, rest)) :
    c.inFlight = rest.inFlight + 1 := by
  obtain ⟨waiting, hfinished, rfl⟩ := poll?_eq_some hpoll
  have hsome := h.inFlight_eq
  rw [hfinished, List.length_cons] at hsome
  dsimp only
  omega

/-! ### What one step does to them -/

lemma accounted_start : Accounted codec [] (toStore store) where
  calls := .refl _
  replies := .nil
  count := rfl

/-- A call that is submitted runs. -/
lemma Accounted.submit (h : Accounted codec history c) (call : StoreCall) :
    Accounted codec (history ++ [(c, .submit call)]) (c.submit call) where
  calls := by
    have hruns : (c.running ++ ((answered history).map (·.1) ++ [call])).Perm
        (c.running ++ ([call] ++ (answered history).map (·.1))) :=
      List.perm_append_comm.append_left _
    have hcalls := h.calls.append_right [call]
    rw [List.append_assoc] at hcalls
    simpa [submitted, answered, Courier.submit] using hcalls.trans hruns
  replies := by simpa [answered, polled, Courier.submit] using h.replies
  count := by
    have hsubmitted : submitted (history ++ [(c, .submit call)]) = submitted history ++ [call] := by
      simp [submitted]
    have hpolled : polled (history ++ [(c, .submit call)]) = polled history := by simp [polled]
    rw [hsubmitted, hpolled, List.length_append, List.length_singleton, ← h.count]
    exact Nat.add_right_comm _ 1 _

/-- A call that finishes is answered by the reply that begins to wait. -/
lemma Accounted.finish (h : Accounted codec history c) {place : Nat}
    (hplace : place < c.running.length) (answer : Answer) :
    Accounted codec (history ++ [(c, .finish place answer)])
      (c.finish place (replyTo codec answer c.running[place]).1) where
  calls := by
    have hruns : (c.running[place] :: c.running.eraseIdx place).Perm c.running :=
      List.getElem_cons_eraseIdx_perm hplace
    have hmoves : (c.running.eraseIdx place ++ (answered history).map (·.1)
        ++ [c.running[place]]).Perm (c.running ++ (answered history).map (·.1)) :=
      (List.perm_append_singleton _ _).trans (hruns.append_right _)
    simpa [submitted, answered, hplace, Courier.finish] using h.calls.trans hmoves.symm
  replies := by
    have hreply := answers_replyTo codec answer c.running[place]
    have hreplies := List.rel_append h.replies (.cons hreply .nil)
    simpa [answered, polled, hplace, Courier.finish] using hreplies
  count := by simpa [submitted, polled, Courier.finish] using h.count

/-- A reply that is taken does not wait any more. -/
lemma Accounted.poll (h : Accounted codec history c) {reply : StoreReply} {rest : Courier}
    (hpoll : c.poll? = some (reply, rest)) :
    Accounted codec (history ++ [(c, .poll)]) rest := by
  have hcounted := h.inFlight_poll hpoll
  have hpolled : polled (history ++ [(c, .poll)]) = polled history ++ [reply] := by
    simp [polled, hpoll]
  obtain ⟨waiting, hfinished, rfl⟩ := poll?_eq_some hpoll
  refine ⟨?calls, ?replies, ?count⟩
  case calls => simpa [submitted, answered] using h.calls
  case replies =>
    rw [hpolled]
    simpa [answered, hfinished] using h.replies
  case count =>
    have hsubmitted : submitted (history ++ [(c, .poll)]) = submitted history := by
      simp [submitted]
    rw [hpolled, hsubmitted, List.length_append, List.length_singleton, ← h.count]
    dsimp only at hcounted ⊢
    omega

/-- Asking in vain changes nothing. -/
lemma Accounted.poll_none (h : Accounted codec history c) (hpoll : c.poll? = none) :
    Accounted codec (history ++ [(c, .poll)]) c where
  calls := by simpa [submitted, answered] using h.calls
  replies := by simpa [answered, polled, hpoll] using h.replies
  count := by simpa [submitted, polled, hpoll] using h.count

/-- **The books are right after every run.** -/
theorem accounted (run : Run (couriers codec store) history c) : Accounted codec history c := by
  induction run with
  | start => exact accounted_start
  | @step history c act _ allowed ih =>
      cases act with
      | submit call => exact ih.submit call
      | finish place answer =>
          have hplace : place < c.running.length := allowed
          have hnext : (couriers codec store).next c (.finish place answer) =
              c.finish place (replyTo codec answer c.running[place]).1 := by
            simp [couriers, next, hplace]
          rw [hnext]
          exact ih.finish hplace answer
      | poll =>
          cases hpoll : c.poll? with
          | none =>
              have hnext : (couriers codec store).next c .poll = c := by
                simp [couriers, next, hpoll]
              rw [hnext]
              exact ih.poll_none hpoll
          | some taken =>
              obtain ⟨reply, rest⟩ := taken
              have hnext : (couriers codec store).next c .poll = rest := by
                simp [couriers, next, hpoll]
              rw [hnext]
              exact ih.poll hpoll

/-- **No reply is lost, taken twice or mistaken for another.**  At any time the calls that run,
those whose replies wait and those whose replies were taken are together the calls that were
submitted.  The replies that were taken and those that wait answer the calls that finished, in the
order in which they did and with what came of their exchanges.  The count is that of the calls less
the replies that were taken; a reply that is taken lowers it by one.  When no call runs and nothing
waits, every call has been delivered. -/
theorem calls_accounted (run : Run (couriers codec store) history c) :
    (∃ delivered waiting, answered history = delivered ++ waiting ∧
      List.Forall₂ (Answers codec) delivered (polled history) ∧
      List.Forall₂ (Answers codec) waiting c.finished ∧
      (submitted history).Perm (c.running ++ waiting.map (·.1) ++ delivered.map (·.1))) ∧
    c.inFlight + (polled history).length = (submitted history).length ∧
    (∀ reply rest, c.poll? = some (reply, rest) → c.inFlight = rest.inFlight + 1) ∧
    (c.running = [] → c.poll? = none → c.inFlight = 0 ∧
      List.Forall₂ (Answers codec) (answered history) (polled history) ∧
      (submitted history).Perm ((answered history).map (·.1))) := by
  have books := accounted run
  refine ⟨?places, books.count, fun _ _ => books.inFlight_poll, fun hrunning hpoll => ?drained⟩
  case places =>
    let taken := (polled history).length
    refine ⟨(answered history).take taken, (answered history).drop taken,
      (List.take_append_drop _ _).symm, List.forall₂_take_append _ _ _ books.replies,
      List.forall₂_drop_append _ _ _ books.replies, books.calls.trans ?_⟩
    rw [List.append_assoc]
    refine List.Perm.append_left _ ?_
    rw [← List.map_append]
    have hsplit := List.take_append_drop taken (answered history)
    exact (hsplit ▸ List.perm_append_comm).map _
  case drained =>
    have hfinished := poll?_eq_none_iff.1 hpoll
    have hcount := books.inFlight_eq
    have hreplies := books.replies
    have hcalls := books.calls
    rw [hrunning, hfinished] at hcount
    rw [hfinished, List.append_nil] at hreplies
    rw [hrunning, List.nil_append] at hcalls
    exact ⟨hcount, hreplies, hcalls⟩

/-- Two calls that finish in the other order, the query at a store that does not know it and the
listing with a refusal. -/
def overtaken : List Act :=
  [.submit (.list ⟨.top, 1, .ofPattern "m"⟩), .submit (.get ⟨7, default⟩),
    .finish 1 (.error (.status 404)), .poll, .finish 0 (.ok "oA=="), .poll]

/-- Couriers that write to a store in its own way. -/
abbrev plainCouriers : System Courier Act := couriers Codec.standard "fake"

theorem calls_accounted_overtaken :
    (plainCouriers.after plainCouriers.start overtaken).inFlight = 0 ∧
      List.Forall₂ (Answers Codec.standard)
        [(.get ⟨7, default⟩, .error (.status 404)),
          (.list ⟨.top, 1, .ofPattern "m"⟩, .ok "oA==")]
        [.get 7 (.error (.transport .get (.status 404))),
          .list .top 1 (.error (.rejected .list Transport.noReason))] := by
  have run : Run plainCouriers (plainCouriers.trace plainCouriers.start overtaken)
      (plainCouriers.after plainCouriers.start overtaken) :=
    Run.start.extend overtaken (by decide)
  obtain ⟨-, -, -, drained⟩ := calls_accounted run
  obtain ⟨hcount, hreplies, -⟩ := drained rfl rfl
  exact ⟨hcount, hreplies⟩

end

/-! ## All calls, one after the other -/

section

variable {codec : Codec} {store : String} {σ : Type} {exchange : Post → StateM σ Answer}

/-- A call that is carried out comes to its reply to some outcome of the exchange. -/
lemma send_run (call : StoreCall) (s : σ) :
    ∃ answer, ((call.send codec exchange).run s).1 = replyTo codec answer call := by
  cases call with
  | list call =>
      exact ⟨((exchange (Transport.post codec call.request).1).run s).1, rfl⟩
  | get call =>
      exact ⟨((exchange (Transport.post codec call.request).1).run s).1, rfl⟩

/-- Running calls one after the other is finishing the first of them, again and again. -/
lemma run_runCalls : ∀ (calls : List StoreCall) (s : σ) {history : List (Courier × Act)}
    {c : Courier}, c.running = calls → Run (couriers codec store) history c →
      ∃ answers : List Answer, Run (couriers codec store)
        (history ++ (couriers codec store).trace c (answers.map (.finish 0)))
        { c with
          running := []
          finished := c.finished ++ ((runCalls codec exchange calls).run s).1.1 }
  | [], s, history, c, hcalls, run => by
      have hsame : { c with running := [], finished := c.finished ++ [] } = c := by
        rw [List.append_nil, ← hcalls]
      have hreplies : ((runCalls codec exchange []).run s).1.1 = [] := rfl
      refine ⟨[], ?_⟩
      rw [hreplies, hsame]
      simpa [System.trace] using run
  | call :: calls, s, history, c, hcalls, run => by
      let sent := (call.send codec exchange).run s
      obtain ⟨answer, hanswer⟩ : ∃ answer, sent.1 = replyTo codec answer call := send_run call s
      have allowed : (couriers codec store).allows c (.finish 0 answer) := by
        simp [couriers, hcalls]
      have hnext : (couriers codec store).next c (.finish 0 answer) =
          c.finish 0 (replyTo codec answer call).1 := by
        simp [couriers, next, hcalls]
      have hrest : (c.finish 0 (replyTo codec answer call).1).running = calls := by
        simp [Courier.finish, hcalls]
      have hrun := run.step allowed
      rw [hnext] at hrun
      obtain ⟨answers, hrun⟩ := run_runCalls calls sent.2 hrest hrun
      have hreplies : ((runCalls codec exchange (call :: calls)).run s).1.1 =
          (replyTo codec answer call).1 :: ((runCalls codec exchange calls).run sent.2).1.1 := by
        rw [← hanswer]
        rfl
      refine ⟨answer :: answers, ?_⟩
      rw [hreplies]
      simpa [System.trace, hnext, Courier.finish] using hrun

/-- **Running all calls is one of the orders in which they may finish.** -/
theorem run_runAll {history : List (Courier × Act)} {c : Courier}
    (run : Run (couriers codec store) history c) (s : σ) :
    ∃ answers : List Answer, Run (couriers codec store)
      (history ++ (couriers codec store).trace c (answers.map (.finish 0)))
      ((c.runAll codec exchange).run s).1.1 :=
  run_runCalls c.running s rfl run

end

end Meterboard.Courier
