import Meterboard.Duration
import Meterboard.Text

/-!
# Windows of time

How far back a chart or a query reaches is entered as a duration, in the board, in the settings and
on the command line alike.

* `Window.ofText` — the seconds of an entered window, or a refusal.
* `Window.label` — the window as the board shows it.
* `Window.displayed` — the window that the label stands for.
* `Window.millis` — its length in milliseconds.
-/

namespace Meterboard.Window

/-- A text that is no window. -/
structure Refusal where
  text : String
deriving DecidableEq, Repr

/-- The wording of a refusal. -/
def Refusal.message (r : Refusal) : String := "invalid window: " ++ Text.quoted r.text

/-- A window that was read, with what there is to say about the reading. -/
structure Accepted where
  seconds : Int
  log : List Log.Entry
deriving DecidableEq, Repr

/-- Read an entered window.  A text of no unit is taken by its leading integer, with a warning; what
is not positive is refused. -/
def ofText (s : String) : Except Refusal Accepted :=
  match Duration.read s with
  | .exact n => if 0 < n then .ok ⟨n, []⟩ else .error ⟨s⟩
  | .lenient n =>
      if 0 < n then
        .ok ⟨n, [⟨.warn, "window " ++ Text.quoted s ++ " matched no unit, reading it as "
          ++ toString n ++ "s"⟩]⟩
      else .error ⟨s⟩
  | .unreadable => .error ⟨s⟩

/-- The window as the board shows it: one unit, rounded down. -/
def label (seconds : Int) : String :=
  (Duration.label? seconds).getD (toString seconds ++ "s")

/-- The window that the label of another stands for; steps of the window start from it, so that
what is shown doubles and halves. -/
def displayed (seconds : Int) : Int :=
  match (Duration.read (label seconds)).seconds? with
  | some n => if 0 < n then n else seconds
  | none => seconds

/-- The length in milliseconds: none below zero, and the longest that 64 bits hold above that. -/
def millis (seconds : Int) : UInt64 := (min (seconds.toNat * 1000) (UInt64.size - 1)).toUInt64

end Meterboard.Window
