import Meterboard.Board.Input
import Meterboard.Proofs.Run
import Meterboard.Proofs.Store.Source
import Meterboard.Proofs.View.Step

/-!
# What happens to a board

Keys are pressed, the mouse moves, and again and again the board takes the replies that are there
and looks at its timer.  Most of that never reaches the view.  What does comes down to three things:
the view is told of something, a reply is taken, the timer fires.

**The system.**  `Board.Act`, `boards` — a user, clocks and a source of calls.

**What is kept.**  `Board.Kept` — a property that survives these three things, and any change beside
the view, the timer and the calls without an answer.  Such a property survives everything
(`Kept.perform`), so it holds of every board that a run reaches (`Kept.of_run`), and also between
two replies of one tick (`Kept.drain`).

**Effects.**  Effects are carried out one after the other, so what each of them does to a part of
the board tells what all of them do (`carryOutAll_map`, `carryOutAll_keeps`): to the timer, and to
the calls without an answer (`carryOutAll_refetchAt?`, `carryOutAll_unanswered`).

**Ticks.**  What taking a reply keeps, taking replies keeps (`drain_keeps`), and with the timer a
whole tick (`tick_keeps`).
-/

namespace Meterboard

/-- The event is the outcome of a call. -/
def View.Event.isOutcome : View.Event → Bool
  | .listCompleted _ _ _ => true
  | .getCompleted _ _ => true
  | _ => false

/-- The mark of the call that an effect submits. -/
def View.Effect.mark? : View.Effect → Option Mark
  | .list call => some (.list call.level call.generation)
  | .get call => some (.get call.generation)
  | _ => none

namespace Board

variable {σ : Type} [StoreSource σ] {unanswered : σ → List Mark}

/-! ## The system -/

/-- What may happen to a board; most of it happens at a time of the clocks. -/
inductive Act (σ : Type) where
  | start (now : Clock)
  /-- The view is told of something; outcomes of calls are left to the ticks. -/
  | tell (event : View.Event) (now : Clock)
  | key (k : Key) (now : Clock)
  | mouse (m : Mouse) (now : Clock)
  /-- The clocks are read for each reply, and once more for the timer. -/
  | tick (clock : Nat → Clock) (now : Clock)
  /-- Everything but the view and the timer is replaced: the screen was drawn, or calls came to
  their replies. -/
  | around (rest : Board σ)

/-- Replace everything but the view and the timer. -/
def within (b rest : Board σ) : Board σ := { rest with view := b.view, refetchAt? := b.refetchAt? }

/-- The board after an act. -/
def perform (b : Board σ) : Act σ → Board σ
  | .start now => b.start now
  | .tell event now => b.tell event now
  | .key k now => (b.key k now).board
  | .mouse m now => b.mouse m now
  | .tick clock now => b.tick clock now
  | .around rest => b.within rest

/-- Only polling tells the view of outcomes, and takes calls from those without an answer. -/
def allows (unanswered : σ → List Mark) (b : Board σ) : Act σ → Prop
  | .tell event _ => event.isOutcome = false
  | .around rest => (unanswered rest.source).Perm (unanswered b.source)
  | _ => True

instance : (b : Board σ) → (act : Act σ) → Decidable (b.allows unanswered act)
  | _, .tell event _ => inferInstanceAs (Decidable (event.isOutcome = false))
  | b, .around rest =>
      inferInstanceAs (Decidable ((unanswered rest.source).Perm (unanswered b.source)))
  | _, .start _ | _, .key _ _ | _, .mouse _ _ | _, .tick _ _ => isTrue trivial

end Board

/-- All that can happen to a board over a source. -/
def boards {σ : Type} [StoreSource σ] (unanswered : σ → List Mark) (source : σ)
    (settings : ViewSettings) (theme : Theme) : System (Board σ) (Board.Act σ) :=
  ⟨.of source settings theme, Board.allows unanswered, Board.perform⟩

instance {σ : Type} [StoreSource σ] (unanswered : σ → List Mark) (source : σ)
    (settings : ViewSettings) (theme : Theme) (b : Board σ) (act : Board.Act σ) :
    Decidable ((boards unanswered source settings theme).allows b act) :=
  inferInstanceAs (Decidable (b.allows unanswered act))

namespace Board

variable {σ : Type} [StoreSource σ] {unanswered : σ → List Mark}

/-! ## Ticks -/

section Tick

variable {P : Board σ → Prop} {b : Board σ}
  (took : ∀ {b : Board σ} {reply : StoreReply} {source : σ} (now : Clock),
    StoreSource.poll? b.source = some (reply, source) → P b →
      P ({ b with source }.takeReply reply now))

include took

/-- **Taking replies** keeps what each of them keeps. -/
lemma drain_keeps (h : P b) (clock : Nat → Clock) (n : Nat) : P (drain clock n b) := by
  induction n generalizing b clock with
  | zero => exact h
  | succ n ih =>
      unfold drain
      split
      · exact h
      · rename_i hpoll
        exact ih (took (clock 0) hpoll h) _

/-- **A tick** keeps what the replies and the timer keep. -/
lemma tick_keeps
    (fired : ∀ {b : Board σ} {due : Nat} (now : Clock), b.refetchAt? = some due →
      due ≤ now.steady → P b → P ({ b with refetchAt? := none }.tell .refetch now))
    (h : P b) (clock : Nat → Clock) (now : Clock) : P (b.tick clock now) := by
  have hdrained := drain_keeps took h clock (StoreSource.pending b.source)
  unfold tick fireRefetch
  split
  · rename_i hset
    split
    · rename_i hdue
      exact fired now hset hdue hdrained
    · exact hdrained
  · exact hdrained

end Tick

/-! ## What is kept -/

/-- The view and the timer are the same, and the calls without an answer are the same; all else may
differ. -/
structure Still (unanswered : σ → List Mark) (b b' : Board σ) : Prop where
  view : b'.view = b.view
  timer : b'.refetchAt? = b.refetchAt?
  unanswered : (unanswered b'.source).Perm (unanswered b.source)

omit [StoreSource σ] in
lemma Still.of_source {b b' : Board σ} (hview : b'.view = b.view)
    (htimer : b'.refetchAt? = b.refetchAt?) (hsource : b'.source = b.source) :
    Still unanswered b b' :=
  ⟨hview, htimer, hsource ▸ .refl _⟩

omit [StoreSource σ] in
lemma still_touch (b : Board σ) : Still unanswered b b.touch := .of_source rfl rfl rfl

/-- What holds of a board still holds when its view was told of something, when it took a reply,
when its timer fired, and after a change beside all that. -/
structure Kept (unanswered : σ → List Mark) (P : Board σ → Prop) : Prop where
  still : ∀ {b b' : Board σ}, Still unanswered b b' → P b → P b'
  told : ∀ {b : Board σ} (event : View.Event) (now : Clock), event.isOutcome = false → P b →
    P (b.tell event now)
  took : ∀ {b : Board σ} {reply : StoreReply} {source : σ} (now : Clock),
    StoreSource.poll? b.source = some (reply, source) → P b →
      P ({ b with source }.takeReply reply now)
  fired : ∀ {b : Board σ} {due : Nat} (now : Clock), b.refetchAt? = some due → due ≤ now.steady →
    P b → P ({ b with refetchAt? := none }.tell .refetch now)

namespace Kept

variable {P : Board σ → Prop} {b b' : Board σ}

/-- A change beside view, timer and source. -/
lemma beside (kept : Kept unanswered P) (h : P b) (hview : b'.view = b.view := by rfl)
    (htimer : b'.refetchAt? = b.refetchAt? := by rfl) (hsource : b'.source = b.source := by rfl) :
    P b' :=
  kept.still (.of_source hview htimer hsource) h

lemma start (kept : Kept unanswered P) (h : P b) (now : Clock) : P (b.start now) :=
  kept.told .start now rfl (kept.beside h)

/-- Also what holds after some of the replies of a tick. -/
lemma drain (kept : Kept unanswered P) (h : P b) (clock : Nat → Clock) (n : Nat) :
    P (drain clock n b) :=
  drain_keeps kept.took h clock n

omit [StoreSource σ] in
/-- Moving a selector is no outcome. -/
lemma moveOf?_isOutcome {v : View} {selector : Selector} {delta : Int} {event : View.Event}
    (h : moveOf? v selector delta = some event) : event.isOutcome = false := by
  cases selector with
  | metric =>
      obtain ⟨value, -, rfl⟩ := Option.map_eq_some_iff.1 h
      rfl
  | host =>
      obtain ⟨value, -, rfl⟩ := Option.map_eq_some_iff.1 h
      rfl
  | interface =>
      obtain ⟨value, -, rfl⟩ := Option.map_eq_some_iff.1 h
      rfl
  | transform =>
      cases h
      rfl
  | window =>
      cases h
      split <;> rfl

lemma move (kept : Kept unanswered P) (h : P b) (delta : Int) (now : Clock) :
    P (b.move delta now) := by
  unfold Board.move
  split
  · rename_i hmove
    exact kept.told _ now (moveOf?_isOutcome hmove) h
  · exact h

lemma fetchNow (kept : Kept unanswered P) (h : P b) (now : Clock) : P (b.fetchNow now) := by
  unfold Board.fetchNow
  split
  · exact kept.told .start now rfl h
  · exact kept.told .refetch now rfl h

lemma editWindowInput (kept : Kept unanswered P) (h : P b) (edit : String → String) :
    P (b.editWindowInput edit) := by
  unfold Board.editWindowInput
  split
  · exact kept.beside h
  · exact h

lemma enterWindowInput (kept : Kept unanswered P) (h : P b) (now : Clock) :
    P (b.enterWindowInput now) := by
  unfold Board.enterWindowInput
  split
  · rename_i text _
    have hclosed : P { b with windowInput? := none } := kept.beside h
    exact kept.still (still_touch _) (kept.told (.windowEntered text) now rfl hclosed)
  · exact kept.still (still_touch b) h

lemma windowKey (kept : Kept unanswered P) (h : P b) (k : Key) (now : Clock) :
    P (b.windowKey k now) := by
  unfold Board.windowKey
  split
  · exact kept.enterWindowInput h now
  · exact kept.beside h
  · exact kept.editWindowInput h _
  · split
    · exact kept.beside h
    · exact kept.editWindowInput h _
  · exact h

lemma command (kept : Kept unanswered P) (h : P b) (now : Clock) (c : Command) :
    P (b.command now c).board := by
  cases c with
  | quit => exact kept.beside h
  | focusNext => exact kept.beside h
  | focusPrevious => exact kept.beside h
  | move delta => exact kept.move h delta now
  | halveWindow => exact kept.told .windowHalved now rfl h
  | doubleWindow => exact kept.told .windowDoubled now rfl h
  | openWindowInput => exact kept.beside h
  | zoomOut => exact kept.told .zoomOut now rfl h
  | fetchNow => exact kept.fetchNow h now
  | toggleHelp => exact kept.beside h
  | exportSeries =>
      unfold Board.command
      dsimp only
      split
      · exact h
      · exact kept.beside h

lemma key (kept : Kept unanswered P) (h : P b) (k : Key) (now : Clock) : P (b.key k now).board := by
  unfold Board.key
  split
  · exact kept.beside h
  · split
    · exact kept.windowKey h k now
    · split
      · exact kept.command h now _
      · exact h

lemma endDrag (kept : Kept unanswered P) (h : P b) (column : Nat) (now : Clock) :
    P (b.endDrag column now) := by
  unfold Board.endDrag
  split
  · exact h
  · dsimp only
    have hended : P { b with drag? := none, changed := true } := kept.beside h
    split
    · exact hended
    · split
      · exact kept.told (.zoomSelected _) now rfl hended
      · exact hended

lemma mouse (kept : Kept unanswered P) (h : P b) (m : Mouse) (now : Clock) :
    P (b.mouse m now) := by
  unfold Board.mouse
  split
  · split
    · exact kept.beside h
    · exact h
  · unfold Board.dragTo
    split
    · exact kept.beside h
    · exact h
  · exact kept.endDrag h m.column now
  · exact kept.told .zoomOut now rfl h
  · exact kept.move h _ now
  · exact kept.move h _ now
  · exact h

/-- **One act.** -/
theorem perform (kept : Kept unanswered P) (h : P b) {act : Act σ}
    (allowed : b.allows unanswered act) : P (b.perform act) := by
  cases act with
  | start now => exact kept.start h now
  | tell event now => exact kept.told event now allowed h
  | key k now => exact kept.key h k now
  | mouse m now => exact kept.mouse h m now
  | tick clock now => exact tick_keeps kept.took kept.fired h clock now
  | around rest =>
      have hstill : Still unanswered b (b.within rest) := ⟨rfl, rfl, allowed⟩
      exact kept.still hstill h

/-- What is kept, and holds of a board that has done nothing yet, holds of every board. -/
theorem of_run (kept : Kept unanswered P) {source : σ} {settings : ViewSettings} {theme : Theme}
    (hstart : P (.of source settings theme)) {history : List (Board σ × Act σ)}
    (run : Run (boards unanswered source settings theme) history b) : P b :=
  run.invariant (I := P) hstart fun _ _ h allowed => kept.perform h allowed

end Kept

/-! ## Effects -/

/-- A part of the board goes through the effects one after the other. -/
lemma carryOutAll_map {β : Type} (part : Board σ → β) (change : β → View.Effect → β) (now : Clock)
    (h : ∀ b effect, part (carryOut now b effect) = change (part b) effect) (b : Board σ)
    (es : List View.Effect) : part (b.carryOutAll now es) = es.foldl change (part b) :=
  (List.foldl_hom part fun b effect => (h b effect).symm).symm

/-- What no effect changes stays. -/
lemma carryOutAll_keeps {β : Type} (part : Board σ → β) (now : Clock)
    (h : ∀ b effect, part (carryOut now b effect) = part b) (b : Board σ)
    (es : List View.Effect) : part (b.carryOutAll now es) = part b := by
  rw [carryOutAll_map part (fun x _ => x) now h, List.foldl_fixed]

lemma carryOutAll_view (now : Clock) (b : Board σ) (es : List View.Effect) :
    (b.carryOutAll now es).view = b.view := by
  refine carryOutAll_keeps (·.view) now ?_ b es
  intro b effect
  cases effect <;> rfl

/-- The timer goes through the effects one after the other. -/
lemma carryOutAll_refetchAt? (now : Clock) (b : Board σ) (es : List View.Effect) :
    (b.carryOutAll now es).refetchAt?.isSome
      = es.foldl View.Effect.setTimer b.refetchAt?.isSome := by
  refine carryOutAll_map (·.refetchAt?.isSome) _ now ?_ b es
  intro b effect
  cases effect <;> rfl

/-- The calls among the effects are submitted. -/
lemma carryOutAll_unanswered (honest : StoreSource.Honest unanswered) (now : Clock) (b : Board σ)
    (es : List View.Effect) :
    (unanswered (b.carryOutAll now es).source).Perm
      (es.filterMap View.Effect.mark? ++ unanswered b.source) := by
  induction es generalizing b with
  | nil => exact .refl _
  | cons effect es ih =>
      refine (ih (b.carryOut now effect)).trans ?_
      cases effect with
      | list call =>
          exact ((honest.submit b.source (.list call)).append_left _).trans List.perm_middle
      | get call =>
          exact ((honest.submit b.source (.get call)).append_left _).trans List.perm_middle
      | render => exact .refl _
      | armRefetch delay => exact .refl _
      | cancelRefetch => exact .refl _
      | notice message => exact .refl _

end Board

end Meterboard
