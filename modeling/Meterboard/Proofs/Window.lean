import Meterboard.Command
import Meterboard.Proofs.Duration
import Meterboard.Proofs.View.Step
import Meterboard.Settings

/-!
# One text in four places

A window is typed in the board, set in the settings, and given to two commands.  All four leave the
reading to `Window.ofText`, but the board trims the text first.  To a text in the written form that
makes no difference, for it has no blanks, and neither to a text that is read by its leading integer
with or without them.  What is left is a written text with blanks around it: the board reads it
exactly, and the others lose its unit.

* `View.Enters`, `Settings.Configures`, `Command.Gets`, `Command.Lists` — what a place takes a text
  for: a window of so many seconds, or none.
* `Window.ReadAlike` — a text for which all of them take the same.
* `Window.Padded` — a written text with a unit above the second, and blanks around it.
* `Window.seconds?_trim_iff` — just for these a reading and the reading of the trimmed text differ.
* `Window.readAlike_iff` — just these are not read alike.
-/

namespace Meterboard

/-! ## What a place takes a text for -/

/-- The board takes a text that was typed for a window of so many seconds, or refuses it with a
notice. -/
structure View.Enters (text : String) (seconds? : Option Int) : Prop where
  accepted : ∀ seconds, seconds? = some seconds → ∀ (v : View) (now : UInt64),
    (v.handle (.windowEntered text) now).view = (v.setWindow seconds now).view ∧
    (v.handle (.windowEntered text) now).effects = (v.setWindow seconds now).effects
  refused : seconds? = none → ∀ (v : View) (now : UInt64),
    (v.handle (.windowEntered text) now).view = v ∧
    ∃ message, (v.handle (.windowEntered text) now).effects = [.notice message]

/-- Settings with the text as their window start a view with a window of so many seconds, if their
transform is one, or are refused for the window. -/
structure Settings.Configures (text : String) (seconds? : Option Int) : Prop where
  accepted : ∀ seconds, seconds? = some seconds → ∀ s : Settings, s.window = text →
    s.view.1 = match Transform.named? s.transform with
      | some transform => .ok ⟨s.root, s.metric?, s.host?, s.interface?, seconds, transform⟩
      | none => .error (.transform s.transform)
  refused : seconds? = none → ∀ s : Settings, s.window = text →
    ∃ refusal, s.view.1 = .error (.window refusal)

/-- A command sends its request for so many seconds, or is refused before anything is sent. -/
structure Command.Sends {m : Type → Type} [Monad m] (report : m Report)
    (request : List Log.Entry → Int → m Report) (seconds? : Option Int) : Prop where
  accepted : ∀ seconds, seconds? = some seconds → ∃ log, report = request log seconds
  refused : seconds? = none → ∃ refusal, report = pure (refused refusal)

/-- A query with the text as its window asks for the samples of so many seconds. -/
def Command.Gets (text : String) (seconds? : Option Int) : Prop :=
  ∀ (m : Type → Type) [Monad m] (zone : Calendar.Zone)
    (exchange : Post → m (Except ExchangeError String)) (now : UInt64)
    (name : String) (maxVariables? maxValues? : Option UInt32) (transform? : Option Transform),
    Sends (run zone exchange now (.get name text maxVariables? maxValues? transform?))
      (fun log seconds => request exchange log
        { GetRequest.ofName name with
          minTimestamp? := some (View.windowStart seconds now)
          maxVariables?, maxValues?
          mutations := transform?.toList.map fun t => ⟨t, none, none⟩ }
        fun (r : GetResponse) => (sampleLines zone r.streams, []))
      seconds?

/-- A listing with the text as its age asks for the variables of so many seconds. -/
def Command.Lists (text : String) (seconds? : Option Int) : Prop :=
  ∀ (m : Type → Type) [Monad m] (zone : Calendar.Zone)
    (exchange : Post → m (Except ExchangeError String)) (now : UInt64)
    (pattern : String) (maxVariables? : Option UInt32),
    Sends (run zone exchange now (.list pattern maxVariables? (some text)))
      (fun log seconds => request exchange log
        { ListRequest.ofPattern pattern with
          maxVariables?, maxAge? := some (Window.millis seconds) }
        fun (r : ListResponse) => (variableLines r.streams, []))
      seconds?

namespace Window

/-- The seconds that a text is read as, unless it is refused. -/
def seconds? (text : String) : Option Int := (ofText text).toOption.map (·.seconds)

/-- All places take the text for the same window, or none of them for any. -/
def ReadAlike (text : String) : Prop :=
  ∃ seconds, View.Enters text seconds ∧ Settings.Configures text seconds ∧
    Command.Gets text seconds ∧ Command.Lists text seconds

/-! ## The reading of each place -/

lemma seconds?_eq_some_iff {text : String} {seconds : Int} :
    seconds? text = some seconds ↔ ∃ accepted, ofText text = .ok accepted ∧
      accepted.seconds = seconds := by
  unfold seconds?
  cases ofText text <;> simp [Except.toOption]

lemma seconds?_eq_none_iff {text : String} :
    seconds? text = none ↔ ∃ refusal, ofText text = .error refusal := by
  unfold seconds?
  cases ofText text <;> simp [Except.toOption]

/-- The board reads what is left of the text without the blanks around it. -/
lemma enters (text : String) : View.Enters text (seconds? (Text.trim text)) where
  accepted := by
    intro seconds hseconds v now
    obtain ⟨accepted, hread, rfl⟩ := seconds?_eq_some_iff.1 hseconds
    unfold View.handle
    simp only [hread, and_self]
  refused := by
    intro hnone v now
    obtain ⟨refusal, hread⟩ := seconds?_eq_none_iff.1 hnone
    unfold View.handle
    simp only [hread, true_and]
    exact ⟨_, rfl⟩

lemma configures (text : String) : Settings.Configures text (seconds? text) where
  accepted := by
    rintro seconds hseconds s rfl
    obtain ⟨accepted, hread, rfl⟩ := seconds?_eq_some_iff.1 hseconds
    unfold Settings.view
    simp only [hread]
    cases Transform.named? s.transform <;> rfl
  refused := by
    rintro hnone s rfl
    obtain ⟨refusal, hread⟩ := seconds?_eq_none_iff.1 hnone
    unfold Settings.view
    simp only [hread]
    exact ⟨refusal, rfl⟩

lemma sends {m : Type → Type} [Monad m] {text : String} {report : m Command.Report}
    {request : List Log.Entry → Int → m Command.Report}
    (hok : ∀ accepted, ofText text = .ok accepted →
      report = request accepted.log accepted.seconds)
    (herror : ∀ refusal, ofText text = .error refusal → report = pure (Command.refused refusal)) :
    Command.Sends report request (seconds? text) where
  accepted := by
    intro seconds hseconds
    obtain ⟨accepted, hread, rfl⟩ := seconds?_eq_some_iff.1 hseconds
    exact ⟨accepted.log, hok accepted hread⟩
  refused := by
    intro hnone
    obtain ⟨refusal, hread⟩ := seconds?_eq_none_iff.1 hnone
    exact ⟨refusal, herror refusal hread⟩

lemma gets (text : String) : Command.Gets text (seconds? text) := by
  intro m _ zone exchange now name maxVariables? maxValues? transform?
  refine sends (fun accepted hread => ?_) (fun refusal hread => ?_)
  all_goals
    unfold Command.run
    simp only [hread]

lemma lists (text : String) : Command.Lists text (seconds? text) := by
  intro m _ zone exchange now pattern maxVariables?
  refine sends (fun accepted hread => ?_) (fun refusal hread => ?_)
  all_goals
    unfold Command.run
    simp only [hread]

/-! ## Blanks around a text -/

lemma seconds?_eq (text : String) :
    seconds? text = (Duration.readChars text.toList).seconds?.filter (0 < ·) := by
  unfold seconds? ofText Duration.read
  cases Duration.readChars text.toList with
  | exact n =>
      by_cases hpos : 0 < n <;>
        simp [Duration.Reading.seconds?, Option.filter_some, Except.toOption, hpos]
  | lenient n =>
      by_cases hpos : 0 < n <;>
        simp [Duration.Reading.seconds?, Option.filter_some, Except.toOption, hpos]
  | unreadable => rfl

/-- A number with a unit above the second, and blanks around it.  The number alone would do for a
window. -/
structure Padded (text : String) (n : Nat) (u : Duration.Unit) : Prop where
  blanks : Text.trim text ≠ text
  written : Duration.written? (Text.trim text).toList = some (n, u)
  unit : u ≠ .second
  positive : 0 < n
  le_limit : n ≤ Duration.limit

/-- A text with blanks around it is not in the written form. -/
lemma written?_of_trim_ne {text : String} (h : Text.trim text ≠ text) :
    Duration.written? text.toList = none := by
  cases hwritten : Duration.written? text.toList with
  | none => rfl
  | some found => exact absurd (Text.trim_eq_self (Duration.not_isBlank_of_written hwritten)) h

/-- With blanks around it, a text is read by the integer that it begins with without them. -/
lemma seconds?_of_trim_ne {text : String} (h : Text.trim text ≠ text) :
    seconds? text = (Duration.leading? (Text.trim text).toList).filter (0 < ·) := by
  rw [seconds?_eq, Duration.seconds?_readChars_of_leading (written?_of_trim_ne h), Text.trim,
    String.toList_ofList, Duration.leading?_trimChars]

lemma seconds?_of_padded {text : String} {n : Nat} {u : Duration.Unit} (h : Padded text n u) :
    seconds? text = some (n : Int) := by
  rw [seconds?_of_trim_ne h.blanks, Duration.leading?_of_written h.written, if_pos h.le_limit]
  exact Option.filter_some_pos (by simpa using h.positive)

lemma seconds?_trim_of_padded {text : String} {n : Nat} {u : Duration.Unit} (h : Padded text n u) :
    seconds? (Text.trim text)
      = if n * u.seconds ≤ Duration.limit then some ((n * u.seconds : Nat) : Int) else none := by
  rw [seconds?_eq, Duration.seconds?_readChars_of_written h.written]
  have hpos : 0 < ((n * u.seconds : Nat) : Int) :=
    Int.natCast_pos.2 (Nat.mul_pos h.positive u.seconds_pos)
  split
  · exact Option.filter_some_pos (decide_eq_true hpos)
  · rfl

/-- **Trimming matters to padded texts only.** -/
theorem seconds?_trim_iff (text : String) :
    seconds? (Text.trim text) = seconds? text ↔ ¬ ∃ n u, Padded text n u := by
  constructor
  · rintro hsame ⟨n, u, hpadded⟩
    rw [seconds?_of_padded hpadded, seconds?_trim_of_padded hpadded] at hsame
    have hlonger : n < n * u.seconds :=
      (Nat.lt_mul_iff_one_lt_right hpadded.positive).2 (u.one_lt_seconds hpadded.unit)
    split at hsame
    · have hequal : n * u.seconds = n := by exact_mod_cast Option.some.inj hsame
      omega
    · cases hsame
  · intro hnone
    by_cases htrim : Text.trim text = text
    · rw [htrim]
    rw [seconds?_of_trim_ne htrim, seconds?_eq]
    cases hwritten : Duration.written? (Text.trim text).toList with
    | none => rw [Duration.seconds?_readChars_of_leading hwritten]
    | some found =>
        obtain ⟨n, u⟩ := found
        rw [Duration.seconds?_readChars_of_written hwritten, Duration.leading?_of_written hwritten]
        by_cases hle : n ≤ Duration.limit
        · by_cases hpos : 0 < n
          · have hunit : u = .second := Decidable.byContradiction fun hunit =>
              hnone ⟨n, u, htrim, hwritten, hunit, hpos, hle⟩
            rw [hunit, Duration.Unit.seconds, Nat.mul_one]
          · obtain rfl := Nat.eq_zero_of_not_pos hpos
            rw [Nat.zero_mul]
        · have hproduct : ¬ n * u.seconds ≤ Duration.limit := fun h =>
            hle (Nat.le_trans (Nat.le_mul_of_pos_right n u.seconds_pos) h)
          rw [if_neg hle, if_neg hproduct]

/-! ## All places together -/

/-- Two readings are the same if they put the same in the place of every window. -/
lemma eq_of_getD {a b : Option Int} (h : ∀ n, a.getD n = b.getD n) : a = b := by
  cases a with
  | none =>
      cases b with
      | none => rfl
      | some m =>
          have hother : m + 1 = m := h (m + 1)
          omega
  | some n =>
      cases b with
      | none =>
          have hother : n = n + 1 := h (n + 1)
          omega
      | some m => exact congrArg some (h 0)

/-- A text that the board takes for something leaves a window, and only one. -/
lemma eq_of_enters {text : String} {a b : Option Int} (ha : View.Enters text a)
    (hb : View.Enters text b) : a = b := by
  have hwindow : ∀ {a}, View.Enters text a → ∀ v : View,
      (v.handle (.windowEntered text) 0).view.window = a.getD v.window := by
    intro a h v
    cases a with
    | none => exact congrArg View.window (h.refused rfl v 0).1
    | some n =>
        obtain ⟨count, span?, hframe⟩ :=
          View.startGet_frame { v with window := n, zoom := v.zoom.reset } 0
        rw [(h.accepted n rfl v 0).1, View.setWindow_view, hframe]
        rfl
  refine eq_of_getD fun n => ?_
  let v : View := { View.ofSettings default with window := n }
  exact (hwindow ha v).symm.trans (hwindow hb v)

/-- The view that settings start has one window. -/
lemma eq_of_configures {text : String} {a b : Option Int} (ha : Settings.Configures text a)
    (hb : Settings.Configures text b) : a = b := by
  let s : Settings := ⟨"", 0, "", text, (default : Transform).name, none, none, none, none, ""⟩
  have hwindow : ∀ {a}, Settings.Configures text a → s.view.1.toOption.map (·.window) = a := by
    intro a h
    cases a with
    | none =>
        obtain ⟨refusal, hrefusal⟩ := h.refused rfl s rfl
        rw [hrefusal]
        rfl
    | some n =>
        have hknown : Transform.named? (default : Transform).name = some default := by decide
        rw [h.accepted n rfl s rfl]
        dsimp only [s]
        rw [hknown]
        rfl
  exact (hwindow ha).symm.trans (hwindow hb)

/-- The places agree just where trimming makes no difference. -/
lemma readAlike_iff_trim (text : String) :
    ReadAlike text ↔ seconds? (Text.trim text) = seconds? text := by
  constructor
  · rintro ⟨seconds, henters, hconfigures, -, -⟩
    exact (eq_of_enters (enters text) henters).trans
      (eq_of_configures hconfigures (configures text))
  · intro hsame
    exact ⟨seconds? text, hsame ▸ enters text, configures text, gets text, lists text⟩

/-- **One text, one window, but for padded texts.**

* The board takes a text for what is read without the blanks around it, and the settings and both
  commands take it for what is read as it stands.
* All four take it for the same, or all refuse it, unless it is padded: a number above zero with a
  unit above the second, and blanks before or behind.
* A padded text stands for that many seconds in the settings and in the commands, and for that many
  units in the board, which refuses it if these are too long. -/
theorem readAlike_iff (text : String) :
    View.Enters text (seconds? (Text.trim text)) ∧
    (Settings.Configures text (seconds? text) ∧ Command.Gets text (seconds? text) ∧
      Command.Lists text (seconds? text)) ∧
    (ReadAlike text ↔ ¬ ∃ n u, Padded text n u) ∧
    ∀ n u, Padded text n u →
      seconds? text = some (n : Int) ∧
      seconds? (Text.trim text)
        = if n * u.seconds ≤ Duration.limit then some ((n * u.seconds : Nat) : Int) else none :=
  ⟨enters text, ⟨configures text, gets text, lists text⟩,
    (readAlike_iff_trim text).trans (seconds?_trim_iff text),
    fun _ _ h => ⟨seconds?_of_padded h, seconds?_trim_of_padded h⟩⟩

/-- A blank behind more weeks than a window can have: the settings read the number, and the board
refuses the text.  Behind a text that is read by its number anyway, a blank does not matter. -/
theorem readAlike_iff_weeks :
    Settings.Configures "9223372036854775807w " (some 9223372036854775807) ∧
    View.Enters "9223372036854775807w " none ∧
    ¬ ReadAlike "9223372036854775807w " ∧
    ReadAlike "12 hours " := by
  have hpadded : Padded "9223372036854775807w " 9223372036854775807 .week :=
    ⟨by decide, by decide, by decide, by decide, by decide⟩
  obtain ⟨henters, ⟨hconfigures, -, -⟩, halike, hvalues⟩ := readAlike_iff "9223372036854775807w "
  obtain ⟨-, -, hplain, -⟩ := readAlike_iff "12 hours "
  obtain ⟨hsettings, hboard⟩ := hvalues _ _ hpadded
  rw [hsettings] at hconfigures
  rw [hboard, if_neg (by decide)] at henters
  refine ⟨hconfigures, henters, fun h => halike.1 h ⟨_, _, hpadded⟩, hplain.2 ?_⟩
  rintro ⟨n, u, h⟩
  have hnone : Duration.written? (Text.trim "12 hours ").toList = none := by decide
  cases hnone.symm.trans h.written

/-- **One text, two windows.**  With a blank before it, the board takes `12h` for twelve hours, and
the settings and both commands take it for twelve seconds. -/
theorem enters_ne_configures :
    View.Enters " 12h" (some 43200) ∧
    (Settings.Configures " 12h" (some 12) ∧ Command.Gets " 12h" (some 12) ∧
      Command.Lists " 12h" (some 12)) ∧
    ¬ ReadAlike " 12h" := by
  have hboard : seconds? (Text.trim " 12h") = some 43200 := by decide
  have hsettings : seconds? " 12h" = some 12 := by decide
  refine ⟨hboard ▸ enters _, ⟨hsettings ▸ configures _, hsettings ▸ gets _, hsettings ▸ lists _⟩,
    fun h => ?_⟩
  rw [readAlike_iff_trim, hboard, hsettings] at h
  cases h

end Window

end Meterboard
