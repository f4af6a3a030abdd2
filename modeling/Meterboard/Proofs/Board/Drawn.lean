import Meterboard.Proofs.Board.Replies

/-!
# Nothing old stays on the screen

A board draws its screen when it is marked as changed, and takes the mark away then.  Whatever it
tells its view in between, if something that can be seen is different afterwards, or was different
for a moment, the mark is there.

* `Board.Turn`, `Board.turns` — what a board may do from one drawing to the next: its view is told
  of something, replies arrive, the board ticks.
* `Board.heard` — the events that the view is told of in a turn, each with the view that meets it.
* `Marks` — a mark stays, and where there is none the board looks as before.  Every turn has this
  (`marks_turn`), so several have it together.
* `drawn_of_change` — the same for a single event of a view and for all turns up to a drawing.
-/

namespace Meterboard

/-- The effect asks for the screen to be drawn. -/
def View.Effect.draws : View.Effect → Bool
  | .render => true
  | .notice _ => true
  | _ => false

namespace Board

variable {σ : Type}

/-! ## Marks -/

/-- A mark of the first board stays, and where the second has none the same can be seen of both. -/
structure Marks (b b' : Board σ) : Prop where
  stays : b.changed = true → b'.changed = true
  looks : b'.changed = false → b.view.LooksLike b'.view

lemma Marks.refl (b : Board σ) : Marks b b := ⟨id, fun _ => .refl _⟩

lemma Marks.trans {a b c : Board σ} (h : Marks a b) (h' : Marks b c) : Marks a c where
  stays := fun ha => h'.stays (h.stays ha)
  looks := by
    intro hc
    have hb : b.changed = false := Bool.eq_false_iff.2 fun hb => by simp [h'.stays hb] at hc
    exact (h.looks hb).trans (h'.looks hc)

/-- A change of neither the view nor the mark. -/
lemma Marks.beside {b b' : Board σ} (hview : b'.view = b.view := by rfl)
    (hchanged : b'.changed = b.changed := by rfl) : Marks b b' :=
  ⟨fun h => hchanged.trans h, fun _ => .of_eq hview⟩

variable [StoreSource σ]

/-- The mark is set by the effects that ask for it. -/
lemma carryOutAll_changed (now : Clock) (b : Board σ) (es : List View.Effect) :
    (b.carryOutAll now es).changed = (b.changed || es.any (·.draws)) := by
  induction es generalizing b with
  | nil => exact (Bool.or_false _).symm
  | cons effect es ih =>
      have heffect : (b.carryOut now effect).changed = (b.changed || effect.draws) := by
        cases effect <;> simp [carryOut, touch, say, showMessage, View.Effect.draws]
      rw [List.any_cons, ← Bool.or_assoc, ← heffect]
      exact ih (b.carryOut now effect)

/-- What is drawn is marked. -/
lemma changed_of_render {now : Clock} {b : Board σ} {es : List View.Effect}
    (h : .render ∈ es) : (b.carryOutAll now es).changed = true := by
  have hdraws : es.any (·.draws) = true := List.any_eq_true.2 ⟨.render, h, rfl⟩
  rw [carryOutAll_changed, hdraws, Bool.or_true]

/-- Carrying out the effects of an event marks the board, if the event changed what can be seen. -/
lemma marks_carryOutAll {b b' : Board σ} {e : View.Event} (now : Clock)
    (hview : b'.view = (b.view.handle e now.wall).view) (hchanged : b'.changed = b.changed) :
    Marks b (b'.carryOutAll now (b.view.handle e now.wall).effects) where
  stays := by
    intro h
    rw [carryOutAll_changed, hchanged, h, Bool.true_or]
  looks := by
    intro hunmarked
    rw [carryOutAll_view, hview]
    by_cases hlooks : b.view.LooksLike (b.view.handle e now.wall).view
    · exact hlooks
    · rw [changed_of_render (View.render_of_change hlooks)] at hunmarked
      cases hunmarked

lemma marks_tell (b : Board σ) (e : View.Event) (now : Clock) : Marks b (b.tell e now) :=
  marks_carryOutAll now rfl rfl

lemma marks_takeReply (b : Board σ) (reply : StoreReply) (now : Clock) :
    Marks b (b.takeReply reply now) := by
  unfold takeReply
  dsimp only
  split
  · exact marks_carryOutAll now rfl rfl
  · exact marks_carryOutAll now rfl rfl

lemma marks_fireRefetch (b : Board σ) (now : Clock) : Marks b (b.fireRefetch now) := by
  unfold fireRefetch
  split
  · split
    · have hstopped : Marks b { b with refetchAt? := none } := .beside
      exact hstopped.trans (marks_tell _ .refetch now)
    · exact .refl b
  · exact .refl b

lemma Takes.marks {b b' : Board σ} {xs : List (Taken σ)} (h : Takes b xs b') : Marks b b' := by
  induction h with
  | done b => exact .refl b
  | @reply b b' reply source now rest _ _ ih =>
      have hpolled : Marks b { b with source } := .beside
      exact hpolled.trans ((marks_takeReply _ reply now).trans ih)

/-! ## Events that change what can be seen -/

/-- The event changes what can be seen of the view that it meets. -/
def Shows (x : View × View.Event × UInt64) : Prop :=
  ¬ x.1.LooksLike (x.1.handle x.2.1 x.2.2).view

lemma changed_of_shows {b b' : Board σ} {e : View.Event} {now : Clock}
    (h : Shows (b.view, e, now.wall)) :
    (b'.carryOutAll now (b.view.handle e now.wall).effects).changed = true :=
  changed_of_render (View.render_of_change h)

/-- The event that a reply is to the view that meets it. -/
def Taken.heard (x : Taken σ) : View × View.Event × UInt64 :=
  (x.board.view, .ofReply x.reply, x.now.wall)

/-- One of the replies changed what can be seen, if only until the next. -/
lemma Takes.changed {b b' : Board σ} {xs : List (Taken σ)} (h : Takes b xs b')
    (hshows : ∃ x ∈ xs, Shows x.heard) : b'.changed = true := by
  induction h with
  | done b =>
      obtain ⟨x, hx, -⟩ := hshows
      cases hx
  | @reply b b' reply source now rest _ htakes ih =>
      obtain ⟨x, hx, hshows⟩ := hshows
      rcases List.mem_cons.1 hx with rfl | hx
      · refine htakes.marks.stays ?_
        unfold takeReply
        dsimp only
        split
        · exact changed_of_shows hshows
        · exact changed_of_shows hshows
      · exact ih ⟨x, hx, hshows⟩

/-! ## Turns -/

/-- What a board may do from one drawing to the next. -/
inductive Turn (σ : Type) where
  /-- The view is told of something. -/
  | tell (event : View.Event) (now : Clock)
  /-- The clocks are read for each reply, and once more for the timer. -/
  | tick (clock : Nat → Clock) (now : Clock)
  /-- Calls came to their replies. -/
  | arrive (source : σ)

/-- The board after a turn. -/
def turn (b : Board σ) : Turn σ → Board σ
  | .tell event now => b.tell event now
  | .tick clock now => b.tick clock now
  | .arrive source => { b with source }

/-- The event of the timer, if it fires. -/
def fired (b : Board σ) (now : Clock) : List (View × View.Event × UInt64) :=
  if b.refetchAt?.any (· ≤ now.steady) then [(b.view, .refetch, now.wall)] else []

/-- The events that the view is told of in a turn, in order, each with the view that meets it. -/
def heard (b : Board σ) : Turn σ → List (View × View.Event × UInt64)
  | .tell event now => [(b.view, event, now.wall)]
  | .tick clock now =>
      (b.replies clock).map Taken.heard
        ++ (drain clock (StoreSource.pending b.source) b).fired now
  | .arrive _ => []

/-- The turns of a board up to a drawing. -/
def turns (b : Board σ) : System (Board σ) (Turn σ) := ⟨b, fun _ _ => True, turn⟩

lemma marks_turn (b : Board σ) (t : Turn σ) : Marks b (b.turn t) := by
  cases t with
  | tell event now => exact marks_tell b event now
  | tick clock now => exact (takes_drain clock _ b).marks.trans (marks_fireRefetch _ now)
  | arrive source => exact .beside

omit [StoreSource σ] in
/-- The timer changes nothing that can be seen. -/
lemma not_shows_of_fired {b : Board σ} {now : Clock} {x : View × View.Event × UInt64}
    (hx : x ∈ b.fired now) : ¬ Shows x := by
  unfold fired at hx
  split at hx
  · obtain rfl := List.mem_singleton.1 hx
    obtain ⟨n, span?, hview⟩ := View.handle_view b.view .refetch now.wall
    intro hshows
    refine hshows ?_
    rw [hview]
    exact ⟨rfl, rfl, rfl, rfl, rfl, rfl, rfl⟩
  · cases hx

lemma changed_turn {b : Board σ} {t : Turn σ} (h : ∃ x ∈ b.heard t, Shows x) :
    (b.turn t).changed = true := by
  obtain ⟨x, hx, hshows⟩ := h
  cases t with
  | tell event now =>
      obtain rfl := List.mem_singleton.1 hx
      exact changed_of_shows hshows
  | tick clock now =>
      rcases List.mem_append.1 hx with hx | hx
      · obtain ⟨y, hy, rfl⟩ := List.mem_map.1 hx
        exact (marks_fireRefetch _ now).stays ((takes_drain clock _ b).changed ⟨y, hy, hshows⟩)
      · exact absurd hshows (not_shows_of_fired hx)
  | arrive source => cases hx

/-- The turns of a run keep the mark, and mark what they change. -/
lemma marks_of_run {b b' : Board σ} {history : List (Board σ × Turn σ)}
    (run : Run b.turns history b') :
    Marks b b' ∧ ((∃ x ∈ history, ∃ y ∈ x.1.heard x.2, Shows y) → b'.changed = true) := by
  induction run with
  | start => exact ⟨.refl b, fun ⟨_, hx, _⟩ => nomatch hx⟩
  | @step history s t _ _ ih =>
      obtain ⟨hmarks, hshown⟩ := ih
      refine ⟨hmarks.trans (marks_turn s t), ?_⟩
      rintro ⟨x, hx, hshows⟩
      rcases List.mem_append.1 hx with hx | hx
      · exact (marks_turn s t).stays (hshown ⟨x, hx, hshows⟩)
      · obtain rfl := List.mem_singleton.1 hx
        exact changed_turn hshows

/-- **Visible changes are always drawn.**

* Whatever a view was told before, an event that changes what can be seen of it, as there are
  options, choices, window, transform, zoom and series, asks for the screen to be drawn.
* Whatever turns a board takes, if an event of one of them changed what can be seen, even if a later
  one took the change back, the screen is to be drawn.
* The same if the board looks different after all turns together. -/
theorem drawn_of_change :
    (∀ (v : View) (e : View.Event) (now : UInt64),
      ¬ v.LooksLike (v.handle e now).view → .render ∈ (v.handle e now).effects) ∧
    ∀ (b b' : Board σ) (history : List (Board σ × Turn σ)), Run b.turns history b' →
      ((∃ x ∈ history, ∃ y ∈ x.1.heard x.2, ¬ y.1.LooksLike (y.1.handle y.2.1 y.2.2).view) →
        b'.takeChanged.1 = true) ∧
      (¬ b.view.LooksLike b'.view → b'.takeChanged.1 = true) := by
  refine ⟨fun _ _ _ => View.render_of_change, fun b b' history run => ?_⟩
  obtain ⟨hmarks, hshown⟩ := marks_of_run run
  refine ⟨hshown, fun hlooks => ?_⟩
  cases hchanged : b'.changed with
  | true => exact hchanged
  | false => exact absurd (hmarks.looks hchanged) hlooks

/-- A board whose screen was just drawn. -/
def drawn : Board Courier := (Board.of (Courier.toStore "") default .dark).takeChanged.2

/-- A range is selected, and the user zooms out of it again. -/
def takenBack : List (Turn Courier) :=
  [.tell (.zoomSelected (Zoom.second 0)) ⟨0, 0⟩, .tell .zoomOut ⟨0, 0⟩]

/-- The board asks for a listing, and takes it. -/
def listed : List (Turn Courier) :=
  [.tell .start ⟨0, 0⟩, .arrive ⟨"", [], [.list .top 1 Cascade.oneInterface], 1⟩,
    .tick (fun _ => ⟨0, 0⟩) ⟨0, 0⟩]

lemma run_turns (ts : List (Turn Courier)) :
    Run drawn.turns (drawn.turns.trace drawn ts) (drawn.turns.after drawn ts) :=
  Run.start.extend ts fun _ _ => trivial

/-- The screen is drawn after the listing, and also where the view is again what it was. -/
theorem drawn_of_change_takenBack :
    drawn.changed = false ∧
    (drawn.turns.after drawn takenBack).view = drawn.view ∧
    (drawn.turns.after drawn takenBack).takeChanged.1 = true ∧
    (drawn.turns.after drawn listed).takeChanged.1 = true := by
  obtain ⟨-, hturns⟩ := drawn_of_change (σ := Courier)
  obtain ⟨hshown, -⟩ := hturns _ _ _ (run_turns takenBack)
  obtain ⟨-, hlooks⟩ := hturns _ _ _ (run_turns listed)
  refine ⟨rfl, rfl, hshown ⟨_, List.mem_cons_self, _, List.mem_cons_self, fun h => ?_⟩,
    hlooks fun h => ?_⟩
  · have hzoom : (some (Zoom.second 0) : Option AxisRange) = none := congrArg Zoom.applied? h.zoom
    cases hzoom
  · have hmetric : (drawn.turns.after drawn listed).view.cascade.metric.current? = none :=
      congrArg Selection.current? h.metric
    revert hmetric
    decide

end Board

end Meterboard
