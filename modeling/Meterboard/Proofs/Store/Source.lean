import Mathlib.Data.List.Perm.Basic
import Meterboard.Store.Courier

/-!
# Honest sources

A board hands its calls to a source and polls for replies.  It cannot look inside, so all it relies
on is that a source answers only what it was asked, and each call at most once.

* `Mark` — what tells calls apart, kept by their replies.
* `StoreSource.Honest` — the calls without an answer can be counted: submitting adds one, and a
  reply that is polled takes one away.
* `Courier.honest` — a courier is an honest source.
-/

namespace Meterboard

/-- What tells calls apart. -/
inductive Mark where
  | list (level : Level) (generation : Nat)
  | get (generation : Nat)
deriving DecidableEq

/-- The mark of a call. -/
def StoreCall.mark : StoreCall → Mark
  | .list call => .list call.level call.generation
  | .get call => .get call.generation

/-- The mark of the call that a reply answers. -/
def StoreReply.mark : StoreReply → Mark
  | .list level generation _ => .list level generation
  | .get generation _ => .get generation

/-- A source answers the calls it was given, each at most once and in any order.  `unanswered` lists
the marks of the calls whose replies have not been polled. -/
structure StoreSource.Honest {σ : Type} [StoreSource σ] (unanswered : σ → List Mark) : Prop where
  submit : ∀ s call, (unanswered (StoreSource.submit s call)).Perm (call.mark :: unanswered s)
  poll : ∀ s {reply : StoreReply} {rest : σ}, StoreSource.poll? s = some (reply, rest) →
    (unanswered s).Perm (reply.mark :: unanswered rest)

namespace Courier

/-- The calls that run, and those whose replies wait. -/
def unanswered (c : Courier) : List Mark :=
  c.running.map StoreCall.mark ++ c.finished.map StoreReply.mark

lemma unanswered_submit (c : Courier) (call : StoreCall) :
    (c.submit call).unanswered.Perm (call.mark :: c.unanswered) := by
  simp only [unanswered, submit, List.map_append, List.map_cons, List.map_nil, List.append_assoc,
    List.singleton_append]
  exact List.perm_middle

lemma poll?_eq_none_iff {c : Courier} : c.poll? = none ↔ c.finished = [] := by
  unfold poll?
  split <;> simp_all

lemma unanswered_poll {c rest : Courier} {reply : StoreReply} (h : c.poll? = some (reply, rest)) :
    c.unanswered.Perm (reply.mark :: rest.unanswered) := by
  obtain ⟨waiting, hfinished, rfl⟩ := poll?_eq_some h
  simp only [unanswered, hfinished, List.map_cons]
  exact List.perm_middle

/-- A courier answers each call at most once. -/
theorem honest : StoreSource.Honest unanswered where
  submit := unanswered_submit
  poll := fun _ _ _ h => unanswered_poll h

end Courier

end Meterboard
