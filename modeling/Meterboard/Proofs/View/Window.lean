import Mathlib.Tactic.Positivity
import Meterboard.Proofs.Duration.Grammar
import Meterboard.Proofs.Duration.Label
import Meterboard.Proofs.View.Query
import Meterboard.Proofs.View.Refusal

/-!
# Doubling and halving the window

The window that is doubled is not the one that is kept but the one that is shown, and what is shown
may be almost half as long.  So doubling could go nowhere, and halving could get stuck.

**Bounds.**  `View.Windowed` — the window is positive and within the limit.  It holds of whatever a
view is told (`windowed_of_told`), and where it holds the window has a label that is read exactly,
as more than half of it (`Window.displayed_bounds`).

**One step.**  Twice what is shown is more than the window, and more than what was shown is shown of
it (`Window.lt_displayed_double`).  Half of what is shown is at most half of the window.

**A run of steps.**  `Windowed.lt_displayed_doubled` — doubling over and over shows more and more
until it is refused.  `Windowed.halved_le` — halving over and over leaves a second in the end.
-/

namespace Meterboard

namespace Window

/-! ## The window that is shown -/

/-- A window within the limit has a label, and it is shown as whole units. -/
lemma displayed_natCast {n : Nat} (hpos : 0 < n) (hlimit : n ≤ Duration.limit) :
    Duration.StandsFor (label n) n (displayed n) ∧ displayed n = (Duration.shown n : Nat) := by
  have hlabel : Duration.label? n = some (label n) := by
    rw [label, Duration.label?_natCast hpos]
    rfl
  have hread := Duration.read_of_label? hpos hlimit hlabel
  have hdisplayed : displayed n = (Duration.shown n : Nat) := by
    have hshown : 0 < ((Duration.shown n : Nat) : Int) :=
      Int.natCast_pos.2 (Duration.shown_pos hpos)
    simp only [displayed, hread, Duration.Reading.seconds?, hshown, if_true]
  exact ⟨⟨hlabel, hdisplayed ▸ hread⟩, hdisplayed⟩

/-- What is shown of a window is more than half of it. -/
lemma displayed_bounds {seconds : Int} (hpos : 0 < seconds) (hlimit : seconds ≤ Duration.limit) :
    0 < displayed seconds ∧ displayed seconds ≤ seconds ∧ seconds < 2 * displayed seconds := by
  obtain ⟨n, rfl⟩ := Int.eq_ofNat_of_zero_le hpos.le
  have hpos : 0 < n := by omega
  have hle := Duration.shown_le n
  have hloss := Duration.lt_two_mul_shown hpos
  rw [(displayed_natCast hpos (by omega)).2]
  omega

/-- **Doubling is seen**: more is shown of twice what is shown. -/
lemma lt_displayed_double {seconds : Int} (hpos : 0 < seconds)
    (hlimit : 2 * displayed seconds ≤ Duration.limit) :
    displayed seconds < displayed (2 * displayed seconds) := by
  have hshown := displayed_pos hpos
  obtain ⟨-, -, hhalf⟩ := displayed_bounds (by omega) hlimit
  omega

/-- The seconds of a window that was accepted are those that were read. -/
lemma seconds?_of_ofText {s : String} {accepted : Accepted} (h : ofText s = .ok accepted) :
    (Duration.read s).seconds? = some accepted.seconds := by
  simp only [ofText] at h
  cases hread : Duration.read s <;> simp only [hread] at h
  case unreadable => cases h
  all_goals
    split at h
    · cases h
      rfl
    · cases h

end Window

namespace View

/-! ## Every view -/

/-- The window is positive and within the limit. -/
structure Windowed (v : View) : Prop where
  pos : 0 < v.window
  le_limit : v.window ≤ Duration.limit

lemma handle_window (v : View) (e : Event) (now : UInt64) :
    (v.handle e now).view.window = (v.newWindow? e).getD v.window := by
  obtain ⟨n, span?, hview⟩ := handle_view v e now
  rw [hview]
  rfl

/-- Every window that an event sets is within the limit. -/
lemma newWindow?_le_limit {v : View} {e : Event} {seconds : Int} (h : v.Windowed)
    (hnew : v.newWindow? e = some seconds) : seconds ≤ Duration.limit := by
  cases e with
  | windowDoubled =>
      simp only [newWindow?] at hnew
      split at hnew
      · rename_i hlimit
        exact Option.some.inj hnew ▸ hlimit
      · cases hnew
  | windowHalved =>
      cases hnew
      have hle := (Window.displayed_bounds h.pos h.le_limit).2.1
      have hlimit := h.le_limit
      have hpos := h.pos
      omega
  | windowEntered text =>
      obtain ⟨accepted, haccepted, rfl⟩ := Option.map_eq_some_iff.1 hnew
      cases htext : Window.ofText (Text.trim text) with
      | error refusal => simp [htext, Except.toOption] at haccepted
      | ok read =>
          obtain rfl : read = accepted := by simpa [htext, Except.toOption] using haccepted
          exact (Duration.seconds?_bounds (Window.seconds?_of_ofText htext)).2
  | _ => cases hnew

lemma Windowed.handle {v : View} (h : v.Windowed) (e : Event) (now : UInt64) :
    (v.handle e now).view.Windowed := by
  have hwindow := handle_window v e now
  cases hnew : v.newWindow? e with
  | none =>
      rw [hnew] at hwindow
      exact ⟨hwindow ▸ h.pos, hwindow ▸ h.le_limit⟩
  | some seconds =>
      rw [hnew] at hwindow
      exact ⟨hwindow ▸ newWindow?_pos h.pos hnew, hwindow ▸ newWindow?_le_limit h hnew⟩

lemma Windowed.play {v : View} (h : v.Windowed) (es : List (Event × UInt64)) :
    (v.play es).1.Windowed := by
  induction es generalizing v with
  | nil => exact h
  | cons e es ih => exact ih (h.handle e.1 e.2)

/-- **Whatever a view is told**, its window is positive and within the limit. -/
theorem windowed_of_told {settings : ViewSettings} (h : settings.window ≤ Duration.limit)
    {seen : List (View × Event × UInt64)} {v : View} (run : Run (told settings) seen v) :
    v.Windowed := by
  refine run.invariant ⟨?_, ?_⟩ fun _ e hv _ => hv.handle e.1 e.2
  · show 0 < max settings.window 1
    omega
  · show max settings.window 1 ≤ Duration.limit
    have hlimit : (1 : Int) ≤ Duration.limit := by decide
    omega

/-! ## One step -/

lemma handle_windowDoubled_of_le {v : View} (h : 2 * Window.displayed v.window ≤ Duration.limit)
    (now : UInt64) :
    (v.handle .windowDoubled now).view.window = 2 * Window.displayed v.window := by
  rw [handle_window, newWindow?, if_pos h]
  rfl

lemma handle_windowDoubled_of_lt {v : View} (h : Duration.limit < 2 * Window.displayed v.window)
    (now : UInt64) : (v.handle .windowDoubled now).view = v ∧
      (v.handle .windowDoubled now).effects = [.notice longestWindow] :=
  handle_of_refusal (show v.refusal? .windowDoubled = _ from if_neg (not_le.2 h)) now

lemma handle_windowHalved (v : View) (now : UInt64) :
    (v.handle .windowHalved now).view.window = max 1 (Window.displayed v.window / 2) := by
  rw [handle_window, newWindow?, Option.getD_some, max_comm]

/-! ## A run of steps -/

/-- The view after as many doublings as there are times. -/
def doubled (v : View) (times : List UInt64) : View := (v.play (times.map (.windowDoubled, ·))).1

/-- The view after as many halvings as there are times. -/
def halved (v : View) (times : List UInt64) : View := (v.play (times.map (.windowHalved, ·))).1

/-- **Doubling over and over shows more and more**, until it is refused and changes nothing. -/
theorem Windowed.lt_displayed_doubled {v : View} (h : v.Windowed) {times : List UInt64}
    (hsome : times ≠ []) :
    Window.displayed v.window < Window.displayed (v.doubled times).window ∨
      (Duration.limit < 2 * Window.displayed v.window ∧ v.doubled times = v) := by
  induction times generalizing v with
  | nil => exact absurd rfl hsome
  | cons now times ih =>
      have hstep : v.doubled (now :: times)
          = (v.handle .windowDoubled now).view.doubled times := rfl
      rw [hstep]
      rcases le_or_gt (2 * Window.displayed v.window) Duration.limit with hle | hgt
      · have hmore := Window.lt_displayed_double h.pos hle
        rw [← handle_windowDoubled_of_le hle now] at hmore
        rcases eq_or_ne times [] with rfl | hrest
        · exact .inl hmore
        · rcases ih (h.handle .windowDoubled now) hrest with hlater | ⟨-, hsame⟩
          · exact .inl (hmore.trans hlater)
          · rw [hsame]
            exact .inl hmore
      · rw [(handle_windowDoubled_of_lt hgt now).1]
        rcases eq_or_ne times [] with rfl | hrest
        · exact .inr ⟨hgt, rfl⟩
        · exact ih h hrest

/-- Each halving leaves at most half of the window, or a second. -/
lemma Windowed.halved_le {v : View} (h : v.Windowed) (times : List UInt64) :
    (v.halved times).window ≤ max 1 (v.window / 2 ^ times.length) := by
  induction times generalizing v with
  | nil =>
      show v.window ≤ max 1 (v.window / 2 ^ 0)
      omega
  | cons now times ih =>
      have hrest := ih (h.handle .windowHalved now)
      rw [handle_windowHalved] at hrest
      have hshown := (Window.displayed_bounds h.pos h.le_limit).2.1
      -- half of what is shown is at most half of the window, and halving goes on from there
      have hhalf : max 1 (Window.displayed v.window / 2) ≤ max 1 (v.window / 2) := by omega
      have hpower : (0 : Int) < 2 ^ times.length := by positivity
      calc (v.halved (now :: times)).window
          ≤ max 1 (max 1 (Window.displayed v.window / 2) / 2 ^ times.length) := hrest
        _ ≤ max 1 (max 1 (v.window / 2) / 2 ^ times.length) :=
            max_le_max le_rfl (Int.ediv_le_ediv hpower hhalf)
        _ ≤ max 1 (v.window / 2 / 2 ^ times.length) := by
            rcases max_choice 1 (v.window / 2) with hone | hsome
            · rw [hone]
              have hsmall : (1 : Int) / 2 ^ times.length ≤ 1 := Int.ediv_le_self _ (by decide)
              omega
            · rw [hsome]
        _ = max 1 (v.window / 2 ^ (now :: times).length) := by
            rw [List.length_cons, pow_succ', Int.ediv_ediv_of_nonneg (by decide)]

/-- **The window can always be doubled and halved**, and it is always shown, whatever the view was
told.

* It is positive and within the limit, and it is shown by its label, which is read exactly.
* Doubling it sets twice what is shown, which is more than the window and is seen to be more; only
  where that would pass the limit is it refused, and then it changes nothing.
* Halving it sets half of what is shown, and at least a second.  That is less than the window unless
  the window is a second.
* So doubling over and over shows more and more until it is refused, and halving 63 times leaves a
  second. -/
theorem window_progress {settings : ViewSettings} (hsettings : settings.window ≤ Duration.limit)
    {seen : List (View × Event × UInt64)} {v : View} (run : Run (told settings) seen v) :
    let shown := Window.displayed v.window
    (1 ≤ v.window ∧ v.window ≤ Duration.limit ∧
      Duration.StandsFor v.windowLabel v.window shown) ∧
    (∀ now, 2 * shown ≤ Duration.limit →
      (v.handle .windowDoubled now).view.window = 2 * shown ∧ v.window < 2 * shown ∧
        shown < Window.displayed (2 * shown)) ∧
    (∀ now, Duration.limit < 2 * shown →
      (v.handle .windowDoubled now).view = v ∧
        (v.handle .windowDoubled now).effects = [.notice longestWindow]) ∧
    (∀ now, (v.handle .windowHalved now).view.window = max 1 (shown / 2)) ∧
    (1 < v.window → max 1 (shown / 2) < v.window) ∧
    (∀ times, times ≠ [] → shown < Window.displayed (v.doubled times).window ∨
      (Duration.limit < 2 * shown ∧ v.doubled times = v)) ∧
    (∀ times, 63 ≤ times.length → (v.halved times).window = 1) := by
  have hv := windowed_of_told hsettings run
  have hpos := hv.pos
  obtain ⟨-, hle, hhalf⟩ := Window.displayed_bounds hv.pos hv.le_limit
  intro shown
  refine ⟨⟨by omega, hv.le_limit, ?_⟩, ?_, ?_, ?_, by omega, ?_, ?_⟩
  · obtain ⟨n, hn⟩ := Int.eq_ofNat_of_zero_le hv.pos.le
    have hlimit := hv.le_limit
    show Duration.StandsFor (Window.label v.window) v.window (Window.displayed v.window)
    rw [hn] at hpos hlimit ⊢
    exact (Window.displayed_natCast (by omega) (by omega)).1
  · exact fun now hlimit =>
      ⟨handle_windowDoubled_of_le hlimit now, hhalf, Window.lt_displayed_double hv.pos hlimit⟩
  · exact fun now hlimit => handle_windowDoubled_of_lt hlimit now
  · exact fun now => handle_windowHalved v now
  · exact fun times hsome => hv.lt_displayed_doubled hsome
  · intro times hmany
    have hend : 0 < (v.halved times).window := (hv.play _).pos
    have hsmall : v.window / 2 ^ times.length ≤ 0 := by
      have hlimit : v.window < 2 ^ times.length :=
        calc v.window < 2 ^ 63 := by
              have hbound : (Duration.limit : Int) < 2 ^ 63 := by decide
              exact hv.le_limit.trans_lt hbound
          _ ≤ 2 ^ times.length := pow_le_pow_right₀ (by decide) hmany
      exact (Int.ediv_eq_zero_of_lt hpos.le hlimit).le
    have hleft := hv.halved_le times
    omega

/-- A view with the longest window: it cannot be doubled, and 63 halvings leave a second. -/
theorem window_progress_longest :
    let v := ofSettings { (default : ViewSettings) with window := Duration.limit }
    (v.handle .windowDoubled 0).effects = [.notice longestWindow] ∧
      (v.handle .windowHalved 0).view.window < v.window ∧
      (v.halved (List.replicate 63 0)).window = 1 := by
  intro v
  obtain ⟨-, -, hrefused, hhalved, hless, -, hsecond⟩ :=
    window_progress (le_refl (Duration.limit : Int))
      (Run.start (S := told { (default : ViewSettings) with window := Duration.limit }))
  refine ⟨(hrefused 0 (by decide)).2, ?_, hsecond _ (by decide)⟩
  exact (hhalved 0).trans_lt (hless (by decide))

end View

end Meterboard
