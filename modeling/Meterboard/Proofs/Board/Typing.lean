import Meterboard.Proofs.Board.Drawn

/-!
# Typing a window

While a window is being typed, keys mean characters, though most characters are commands otherwise.
What is typed is a text, and nothing else changes until a key ends the typing.

* `Key.endsTyping`, `Key.edit` — the keys that end the typing, and what the others do to the text.
* `Board.press` — a board after several keys, and what is to be saved on the way.
* `press_of_typing` — keys that do not end the typing edit the text and leave the rest of the board
  as it is, but for the mark that the screen is to be drawn.
* `Board.InMode`, `Board.Modal` — the help and the text that is typed change by keys only, and no
  key opens one while the other is open; `modal_of_run`, for every run of a `Board.desk`.
-/

namespace Meterboard

/-! ## Keys -/

namespace Key

/-- The key ends the typing: Enter, Escape, or C with control. -/
def endsTyping (k : Key) : Bool :=
  match k.code with
  | .enter => true
  | .escape => true
  | .char c => c = 'c' && k.control
  | _ => false

/-- The key edits the text. -/
def edits (k : Key) : Bool :=
  match k.code with
  | .char _ => true
  | .backspace => true
  | _ => false

/-- The text after a key: a character is added, and backspace takes the last one away. -/
def edit (typed : List Char) (k : Key) : List Char :=
  match k.code with
  | .char c => typed ++ [c]
  | .backspace => typed.dropLast
  | _ => typed

/-- The text after several keys. -/
def typedAfter (typed : List Char) (ks : List (Key × Clock)) : List Char :=
  ks.foldl (fun typed x => x.1.edit typed) typed

end Key

namespace Board

variable {σ : Type}

/-- The board with this text being typed; its screen is to be drawn if something was edited. -/
def typing (b : Board σ) (typed : List Char) (edited : Bool) : Board σ :=
  { b with windowInput? := some (String.ofList typed), changed := b.changed || edited }

/-- The board with nothing being typed. -/
def withoutInput (b : Board σ) : Board σ := { b with windowInput? := none }

lemma typing_toList {b : Board σ} {text : String} (hinput : b.windowInput? = some text) :
    b.typing text.toList false = b := by
  unfold typing
  rw [String.ofList_toList, ← hinput, Bool.or_false]

lemma typing_typing (b : Board σ) (typed typed' : List Char) (edited edited' : Bool) :
    (b.typing typed edited).typing typed' edited' = b.typing typed' (edited || edited') := by
  unfold typing
  rw [← Bool.or_assoc]

variable [StoreSource σ]

/-! ## Keys that edit -/

/-- The board after several keys, and the texts that are to be saved. -/
def press (b : Board σ) : List (Key × Clock) → Board σ × List String
  | [] => (b, [])
  | (k, now) :: ks =>
      let reaction := b.key k now
      let rest := reaction.board.press ks
      (rest.1, reaction.save?.toList ++ rest.2)

/-- While a window is being typed, a key is given to it. -/
lemma key_eq_windowKey {b : Board σ} (hhelp : b.helpShown = false)
    (hinput : b.windowInput?.isSome = true) (k : Key) (now : Clock) :
    b.key k now = ⟨b.windowKey k now, none⟩ := by
  simp [key, hhelp, hinput]

/-- **One key** that does not end the typing. -/
lemma windowKey_of_edit {b : Board σ} {text : String} (hinput : b.windowInput? = some text)
    {k : Key} (hends : k.endsTyping = false) (now : Clock) :
    b.windowKey k now = b.typing (k.edit text.toList) k.edits := by
  obtain ⟨code, shift, control, alt⟩ := k
  have hsame := typing_toList hinput
  cases code with
  | char c =>
      have hcommand : (c = 'c' && control) = false := hends
      simp [windowKey, hcommand, typeChar, editWindowInput, hinput, typing, Key.edit, Key.edits]
  | backspace =>
      simp [windowKey, typeBack, editWindowInput, hinput, typing, Key.edit, Key.edits]
  | enter => cases hends
  | escape => cases hends
  | _ => exact hsame.symm

/-- **Several keys** that do not end the typing. -/
theorem press_of_typing {b : Board σ} {text : String} (hhelp : b.helpShown = false)
    (hinput : b.windowInput? = some text) {ks : List (Key × Clock)}
    (hkeys : ∀ x ∈ ks, x.1.endsTyping = false) :
    b.press ks = (b.typing (Key.typedAfter text.toList ks) (ks.any (·.1.edits)), []) := by
  induction ks generalizing b text with
  | nil => rw [press, Key.typedAfter, List.foldl_nil, List.any_nil, typing_toList hinput]
  | cons x ks ih =>
      obtain ⟨k, now⟩ := x
      obtain ⟨hends, hrest⟩ := List.forall_mem_cons.1 hkeys
      have hkey : b.key k now = ⟨b.typing (k.edit text.toList) k.edits, none⟩ := by
        rw [key_eq_windowKey hhelp (by simp [hinput]), windowKey_of_edit hinput hends]
      have hpress := ih (b := b.typing (k.edit text.toList) k.edits) hhelp rfl hrest
      rw [press, hkey, hpress, typing_typing, String.toList_ofList]
      rfl

/-! ## Keys that end the typing -/

/-- A typed window is answered on the screen, whether it is taken or refused. -/
lemma draws_entered (v : View) (text : String) (now : UInt64) :
    (v.handle (.windowEntered text) now).effects.any (·.draws) = true := by
  cases hreads : Window.reads (Text.trim text) with
  | true =>
      have hrefusal : v.refusal? (.windowEntered text) = none := by
        simp [View.refusal?, hreads]
      have hrender : .render ∈ (v.handle (.windowEntered text) now).effects :=
        View.render_of_accepted rfl hrefusal (by simp) (by simp) now
      exact List.any_eq_true.2 ⟨.render, hrender, rfl⟩
  | false =>
      have hrefusal : v.refusal? (.windowEntered text)
          = some [.notice (Window.Refusal.message ⟨Text.trim text⟩)] := by
        simp [View.refusal?, hreads]
      rw [(View.handle_of_refusal hrefusal now).2]
      rfl

/-- Enter gives the text to the view, and that is all. -/
lemma windowKey_enter {b : Board σ} {text : String} (hinput : b.windowInput? = some text)
    {k : Key} (hcode : k.code = .enter) (now : Clock) :
    b.windowKey k now = b.withoutInput.tell (.windowEntered text) now := by
  have hmarked : (b.withoutInput.tell (.windowEntered text) now).changed = true := by
    rw [tell, carryOutAll_changed, draws_entered, Bool.or_true]
  have htouched : ∀ {b' : Board σ}, b'.changed = true → b'.touch = b' := by
    intro b' h
    rw [touch, ← h]
  simp only [windowKey, hcode, enterWindowInput, hinput]
  exact htouched hmarked

/-- Escape, and C with control, close the window that was being typed. -/
lemma windowKey_close {b : Board σ} {k : Key} (hends : k.endsTyping = true)
    (hcode : k.code ≠ .enter) (now : Clock) : b.windowKey k now = b.closeWindowInput := by
  obtain ⟨code, shift, control, alt⟩ := k
  cases code with
  | char c =>
      have hcommand : (c = 'c' && control) = true := hends
      simp only [windowKey, hcommand, if_true]
  | enter => exact absurd rfl hcode
  | escape => rfl
  | _ => cases hends

/-! ## Help and typing -/

/-- Whether the help of a board is shown, and the window that is being typed. -/
structure InMode (help : Bool) (input? : Option String) (b : Board σ) : Prop where
  help : b.helpShown = help
  input : b.windowInput? = input?

namespace InMode

variable {help : Bool} {input? : Option String} {b : Board σ}

omit [StoreSource σ] in
/-- A change of neither. -/
lemma beside {b' : Board σ} (h : InMode help input? b)
    (hhelp : b'.helpShown = b.helpShown := by rfl)
    (hinput : b'.windowInput? = b.windowInput? := by rfl) : InMode help input? b' :=
  ⟨hhelp.trans h.help, hinput.trans h.input⟩

lemma carryOutAll (h : InMode help input? b) (now : Clock) (es : List View.Effect) :
    InMode help input? (b.carryOutAll now es) := by
  have hkept := carryOutAll_keeps (fun b : Board σ => (b.helpShown, b.windowInput?)) now
    (fun b effect => by cases effect <;> rfl) b es
  exact h.beside (congrArg Prod.fst hkept) (congrArg Prod.snd hkept)

lemma tell (h : InMode help input? b) (e : View.Event) (now : Clock) :
    InMode help input? (b.tell e now) := by
  refine carryOutAll ?_ now _
  exact h.beside

lemma takeReply (h : InMode help input? b) (reply : StoreReply) (now : Clock) :
    InMode help input? (b.takeReply reply now) := by
  refine carryOutAll ?_ now _
  split
  · exact h.beside
  · exact h.beside

lemma tick (h : InMode help input? b) (clock : Nat → Clock) (now : Clock) :
    InMode help input? (b.tick clock now) := by
  refine tick_keeps ?_ ?_ h clock now
  · intro b reply source now _ h
    exact takeReply h.beside reply now
  · intro b due now _ _ h
    exact tell h.beside .refetch now

lemma move (h : InMode help input? b) (delta : Int) (now : Clock) :
    InMode help input? (b.move delta now) := by
  unfold Board.move
  split
  · exact h.tell _ now
  · exact h

lemma endDrag (h : InMode help input? b) (column : Nat) (now : Clock) :
    InMode help input? (b.endDrag column now) := by
  unfold Board.endDrag
  split
  · exact h
  · have hended : InMode help input? { b with drag? := none, changed := true } := h.beside
    dsimp only
    split
    · exact hended
    · split
      · exact hended.tell _ now
      · exact hended

lemma mouse (h : InMode help input? b) (m : Mouse) (now : Clock) :
    InMode help input? (b.mouse m now) := by
  unfold Board.mouse
  split
  · split
    · exact h.beside
    · exact h
  · unfold dragTo
    split
    · exact h.beside
    · exact h
  · exact h.endDrag m.column now
  · exact h.tell .zoomOut now
  · exact h.move (-1) now
  · exact h.move 1 now
  · exact h

/-- Only two commands change the mode. -/
lemma command (h : InMode help input? b) {c : Command} (hhelp : c ≠ .toggleHelp)
    (hinput : c ≠ .openWindowInput) (now : Clock) :
    InMode help input? (b.command now c).board := by
  cases c with
  | move delta => exact h.move delta now
  | halveWindow => exact h.tell .windowHalved now
  | doubleWindow => exact h.tell .windowDoubled now
  | openWindowInput => exact absurd rfl hinput
  | zoomOut => exact h.tell .zoomOut now
  | fetchNow => exact h.tell _ now
  | toggleHelp => exact absurd rfl hhelp
  | exportSeries =>
      unfold Board.command
      dsimp only
      split
      · exact h
      · exact h.beside
  | _ => exact h.beside

end InMode

/-- The help is not shown while a window is typed. -/
def Modal (b : Board σ) : Prop := b.helpShown = true → b.windowInput? = none

omit [StoreSource σ] in
lemma InMode.modal {help : Bool} {input? : Option String} {b : Board σ} (h : InMode help input? b)
    (hmode : help = false ∨ input? = none) : b.Modal := by
  intro hshown
  rcases hmode with hhelp | hinput
  · rw [h.help, hhelp] at hshown
    cases hshown
  · rw [h.input, hinput]

/-- While a window is typed, the help stays hidden. -/
lemma windowKey_help {b : Board σ} {text : String} (hhelp : b.helpShown = false)
    (hinput : b.windowInput? = some text) (k : Key) (now : Clock) :
    (b.windowKey k now).helpShown = false := by
  have hout : InMode false none b.withoutInput := ⟨hhelp, rfl⟩
  cases hends : k.endsTyping with
  | false =>
      rw [windowKey_of_edit hinput hends]
      exact hhelp
  | true =>
      by_cases hcode : k.code = .enter
      · rw [windowKey_enter hinput hcode]
        exact (hout.tell _ now).help
      · rw [windowKey_close hends hcode]
        exact hout.help

/-- **One key** opens the help or the typing only where the other is closed. -/
lemma modal_key {b : Board σ} (h : b.Modal) (k : Key) (now : Clock) :
    (b.key k now).board.Modal := by
  unfold key
  split
  · -- the key hides the help
    rename_i hshown
    have hmode : InMode false none b.toggleHelp := ⟨by simp [toggleHelp, hshown], h hshown⟩
    exact hmode.modal (.inl rfl)
  · rename_i hhidden
    have hhelp : b.helpShown = false := Bool.eq_false_iff.2 hhidden
    split
    · rename_i hopen
      obtain ⟨text, hinput⟩ := Option.isSome_iff_exists.1 hopen
      have hmode : InMode false _ (b.windowKey k now) := ⟨windowKey_help hhelp hinput k now, rfl⟩
      exact hmode.modal (.inl rfl)
    · rename_i hclosed
      have hmode : InMode false none b := ⟨hhelp, by simpa using hclosed⟩
      split
      · rename_i c _
        by_cases htoggle : c = .toggleHelp
        · subst htoggle
          have hopened : InMode true none b.toggleHelp := ⟨by simp [toggleHelp, hhelp], hmode.input⟩
          exact hopened.modal (.inr rfl)
        · by_cases hinput : c = .openWindowInput
          · subst hinput
            have hopened : InMode false (some "") b.openWindowInput := ⟨hhelp, rfl⟩
            exact hopened.modal (.inl rfl)
          · exact (hmode.command htoggle hinput now).modal (.inl rfl)
      · exact hmode.modal (.inl rfl)

/-- What a user, the clocks and the store can do to a board.  Replies that arrive and a screen that
is drawn leave the help and the typed window alone. -/
def desk (source : σ) (settings : ViewSettings) (theme : Theme) : System (Board σ) (Act σ) where
  start := .of source settings theme
  allows b act :=
    match act with
    | .around rest => InMode b.helpShown b.windowInput? rest
    | _ => True
  next := perform

/-- Help and typing exclude each other in every board that is reached. -/
theorem modal_of_run {source : σ} {settings : ViewSettings} {theme : Theme}
    {history : List (Board σ × Act σ)} {b : Board σ}
    (run : Run (desk source settings theme) history b) : b.Modal := by
  have hstart : (Board.of source settings theme).Modal := fun _ => rfl
  refine run.invariant (I := Modal) hstart fun b act h allowed => ?_
  have hsame : InMode b.helpShown b.windowInput? b := ⟨rfl, rfl⟩
  have hkept : ∀ {b' : Board σ}, InMode b.helpShown b.windowInput? b' → b'.Modal :=
    fun hmode hshown => hmode.input.trans (h (hmode.help ▸ hshown))
  cases act with
  | start now =>
      refine hkept (InMode.tell ?_ .start now)
      exact hsame.beside
  | tell e now => exact hkept (hsame.tell e now)
  | key k now => exact modal_key h k now
  | mouse m now => exact hkept (hsame.mouse m now)
  | tick clock now => exact hkept (hsame.tick clock now)
  | around rest => exact hkept (allowed.beside)

/-- **Typing a window.**  A window is being typed in a board, and the help is hidden.

* Keys that do not end the typing, with whatever modifiers, edit the text: each character is added
  to it, and each backspace takes the last one away.  Nothing is saved, and the board is the same
  but for the text and for the mark that its screen is to be drawn.
* Enter then closes the text, and does to the board just what telling the view of the text does.
* Escape or C with control closes it, and that is all.

And whatever happens to a board, the help is not shown while a window is typed. -/
theorem typing_is_modal {b : Board σ} {text : String} (hhelp : b.helpShown = false)
    (hinput : b.windowInput? = some text) {ks : List (Key × Clock)}
    (hkeys : ∀ x ∈ ks, x.1.endsTyping = false) :
    b.press ks = (b.typing (Key.typedAfter text.toList ks) (ks.any (·.1.edits)), []) ∧
    (∀ (k : Key) (now : Clock), k.code = .enter →
      (b.press ks).1.key k now
        = ⟨(b.press ks).1.withoutInput.tell
            (.windowEntered (String.ofList (Key.typedAfter text.toList ks))) now, none⟩ ∧
      ((b.press ks).1.key k now).board.windowInput? = none) ∧
    (∀ (k : Key) (now : Clock), k.endsTyping = true → k.code ≠ .enter →
      (b.press ks).1.key k now = ⟨(b.press ks).1.closeWindowInput, none⟩) ∧
    ∀ (source : σ) (settings : ViewSettings) (theme : Theme) (history : List (Board σ × Act σ))
      (b' : Board σ), Run (desk source settings theme) history b' →
        ¬ (b'.helpShown = true ∧ b'.windowInput?.isSome = true) := by
  have hpress := press_of_typing hhelp hinput hkeys
  have hopen : (b.press ks).1.windowInput?
      = some (String.ofList (Key.typedAfter text.toList ks)) := by
    rw [hpress]
    rfl
  have hhidden : (b.press ks).1.helpShown = false := by rw [hpress]; exact hhelp
  have hkey : ∀ (k : Key) (now : Clock),
      (b.press ks).1.key k now = ⟨(b.press ks).1.windowKey k now, none⟩ :=
    key_eq_windowKey hhidden (by rw [hopen]; rfl)
  refine ⟨hpress, fun k now hcode => ?_, fun k now hends hcode => ?_, ?_⟩
  · rw [hkey, windowKey_enter hopen hcode]
    have hout : InMode false none (b.press ks).1.withoutInput := ⟨hhidden, rfl⟩
    exact ⟨rfl, (hout.tell _ now).input⟩
  · rw [hkey, windowKey_close hends hcode]
  · rintro source settings theme history b' run ⟨hshown, htyping⟩
    rw [modal_of_run run hshown] at htyping
    cases htyping

/-- A board whose user has begun to type a window. -/
def begun : Board Courier :=
  ((Board.of (Courier.toStore "") default .dark).key ⟨.char 'w', false, false, false⟩ ⟨0, 0⟩).board

/-- The user types the command to stop with control held down, takes it back, and types a week. -/
def week : List (Key × Clock) :=
  [(⟨.char 'q', false, true, false⟩, ⟨0, 0⟩), (⟨.backspace, false, false, false⟩, ⟨0, 0⟩),
    (⟨.char '1', false, false, false⟩, ⟨0, 0⟩), (⟨.char 'w', false, false, false⟩, ⟨0, 0⟩)]

/-- The board goes on, Enter sets the window, and Escape does not. -/
theorem typing_is_modal_week :
    (begun.press week).1.running = true ∧
    (begun.press week).1.windowInput? = some "1w" ∧
    ((begun.press week).1.key ⟨.enter, false, false, false⟩ ⟨0, 0⟩).board.view.window = 604800 ∧
    ((begun.press week).1.key ⟨.escape, false, false, false⟩ ⟨0, 0⟩).board.view = begun.view := by
  have hhidden : begun.helpShown = false := rfl
  have hopen : begun.windowInput? = some "" := rfl
  have hkeys : ∀ x ∈ week, x.1.endsTyping = false := by decide
  obtain ⟨hpress, henter, hclose, -⟩ := typing_is_modal hhidden hopen hkeys
  obtain ⟨hentered, -⟩ := henter ⟨.enter, false, false, false⟩ ⟨0, 0⟩ rfl
  have hclosed := hclose ⟨.escape, false, false, false⟩ ⟨0, 0⟩ rfl (by decide)
  refine ⟨?_, ?_, ?_, ?_⟩
  · rw [hpress]
    rfl
  · rw [hpress]
    rfl
  · rw [hentered, hpress]
    rfl
  · rw [hclosed, hpress]
    rfl

end Board

end Meterboard
