import Meterboard.Theme
import Meterboard.View

/-!
# The board

The board owns the view and what carries its calls.  It turns what the user does and what the store
replies into events of the view and carries out the effects that come back: calls are submitted, the
refetch timer is set and stopped, and notices are shown.  Whatever it has to say it adds to a
journal.

* `Clock` — the two clocks the board lives by.
* `Area` — a rectangle of the screen, such as the one where the plot lies; `Area.holds`,
  `Area.nearest` — its cells, and the column of it that is next to another.
* `Selector` — what the arrow keys change.
* `Board`, `Board.of` — the state.
* `Board.tell` — one event of the view with its effects.
* `Board.tick` — take the replies that are there, then fire the refetch timer if it is due.
* `Board.columnTime?` — the time below a column of the plot.
-/

namespace Meterboard

/-- The time, on the two clocks the board lives by. -/
structure Clock where
  /-- Milliseconds since 1970. -/
  wall : UInt64
  /-- Milliseconds on a clock that nobody sets. -/
  steady : Nat
deriving DecidableEq

/-- The time some milliseconds later. -/
def Clock.after (c : Clock) (millis : Nat) : Clock :=
  ⟨c.wall + millis.toUInt64, c.steady + millis⟩

/-! ## Areas of the screen -/

/-- A rectangle of cells; columns and rows are counted from the upper left corner of the screen. -/
structure Area where
  x : Nat
  y : Nat
  width : Nat
  height : Nat
deriving DecidableEq, Repr

namespace Area

/-- The largest number of a column or a row, and the largest extent in either direction. -/
def limit : Nat := 65535

/-- A rectangle, cut where no screen can reach. -/
def of (x y width height : Nat) : Area := ⟨x, y, min width (limit - x), min height (limit - y)⟩

/-- The column after the last one. -/
def right (a : Area) : Nat := a.x + a.width

/-- The row after the last one. -/
def bottom (a : Area) : Nat := a.y + a.height

/-- A cell lies in the rectangle. -/
def holds (a : Area) (column row : Nat) : Bool :=
  a.x ≤ column && column < a.right && a.y ≤ row && row < a.bottom

/-- The column of a rectangle next to a column of the screen. -/
def nearest (a : Area) (column : Nat) : Nat := min (max column a.x) (a.right - 1)

/-- What a frame of one cell on each side leaves. -/
def inner (a : Area) : Area := ⟨a.x + 1, a.y + 1, a.width - 2, a.height - 2⟩

/-- A rectangle of some size in the middle of this one. -/
def centred (a : Area) (width height : Nat) : Area :=
  ⟨a.x + (a.width - width) / 2, a.y + (a.height - height) / 2, width, height⟩

end Area

/-! ## Selectors -/

/-- The selectors of the board. -/
inductive Selector where
  | metric
  | host
  | interface
  | transform
  | window
deriving DecidableEq, Repr

namespace Selector

/-- All selectors, from left to right. -/
def all : List Selector := [.metric, .host, .interface, .transform, .window]

/-- The name of a selector on the screen. -/
def label : Selector → String
  | .metric => "Metric"
  | .host => "Host"
  | .interface => "Interface"
  | .transform => "Value"
  | .window => "Window"

/-- The selector to the right, around the end. -/
def next : Selector → Selector
  | .metric => .host
  | .host => .interface
  | .interface => .transform
  | .transform => .window
  | .window => .metric

/-- The selector to the left, around the end. -/
def previous : Selector → Selector
  | .metric => .window
  | .host => .metric
  | .interface => .host
  | .transform => .interface
  | .window => .transform

end Selector

/-! ## State -/

/-- The mouse is held down and moves over the plot; both ends are columns of the screen. -/
structure Drag where
  start : Nat
  current : Nat
deriving DecidableEq, Repr

/-- The state of the board; `σ` carries its calls. -/
structure Board (σ : Type) where
  running : Bool
  helpShown : Bool
  focus : Selector
  view : View
  source : σ
  /-- When the refetch timer fires, on the steady clock. -/
  refetchAt? : Option Nat
  /-- Something changed since the screen was drawn. -/
  changed : Bool
  /-- The window that is being typed. -/
  windowInput? : Option String
  /-- Where the plot lay when the screen was drawn. -/
  plot? : Option Area
  drag? : Option Drag
  lastError? : Option String
  /-- When a reply that counted last succeeded, on the steady clock. -/
  lastUpdate? : Option Nat
  theme : Theme
  /-- A message, and when it was set on the steady clock. -/
  message? : Option (String × Nat)
  /-- What was said so far. -/
  journal : List Log.Entry

namespace Board

variable {σ : Type}

/-- A board that has done nothing yet. -/
def of (source : σ) (settings : ViewSettings) (theme : Theme) : Board σ where
  running := true
  helpShown := false
  focus := .metric
  view := .ofSettings settings
  source
  refetchAt? := none
  changed := true
  windowInput? := none
  plot? := none
  drag? := none
  lastError? := none
  lastUpdate? := none
  theme
  message? := none
  journal := []

/-- Milliseconds until the refetch timer fires, if it is set. -/
def refetchIn? (b : Board σ) (now : Clock) : Option Nat := b.refetchAt?.map (· - now.steady)

/-- Milliseconds since a reply that counted last succeeded. -/
def updatedAgo? (b : Board σ) (now : Clock) : Option Nat := b.lastUpdate?.map (now.steady - ·)

/-- How long a message is shown, in milliseconds. -/
def messageTime : Nat := 3000

/-- The message that is shown now. -/
def shownMessage? (b : Board σ) (now : Clock) : Option String :=
  match b.message? with
  | some (text, since) => if now.steady - since < messageTime then some text else none
  | none => none

/-- Add to the journal. -/
def say (b : Board σ) (entries : List Log.Entry) : Board σ :=
  { b with journal := b.journal ++ entries }

/-- Ask for the screen to be drawn. -/
def touch (b : Board σ) : Board σ := { b with changed := true }

/-- Whether the screen is to be drawn; who asks will draw it. -/
def takeChanged (b : Board σ) : Bool × Board σ := (b.changed, { b with changed := false })

/-- Show a message for a while. -/
def showMessage (b : Board σ) (text : String) (now : Clock) : Board σ :=
  { b with message? := some (text, now.steady), changed := true }

/-! ## Events and effects -/

/-- Carry out an effect of the view. -/
def carryOut [StoreSource σ] (now : Clock) (b : Board σ) : View.Effect → Board σ
  | .list call => { b with source := StoreSource.submit b.source (.list call) }
  | .get call => { b with source := StoreSource.submit b.source (.get call) }
  | .render => b.touch
  | .armRefetch delay =>
      { b with refetchAt? := some (now.steady + delay) }.say
        [⟨.debug, "next fetch in " ++ toString (delay / 1000) ++ "s"⟩]
  | .cancelRefetch => { b with refetchAt? := none }
  | .notice text => { b with lastError? := some text }.showMessage text now

/-- Carry out effects in order. -/
def carryOutAll [StoreSource σ] (now : Clock) (b : Board σ) (es : List View.Effect) : Board σ :=
  es.foldl (carryOut now) b

/-- Tell the view of an event and carry out what it asks for. -/
def tell [StoreSource σ] (b : Board σ) (event : View.Event) (now : Clock) : Board σ :=
  let step := b.view.handle event now.wall
  ({ b with view := step.view }.say step.log).carryOutAll now step.effects

/-- Fill the selectors and begin to fetch. -/
def start [StoreSource σ] (b : Board σ) (now : Clock) : Board σ :=
  (b.say [⟨.info, "starting against " ++ StoreSource.description b.source⟩]).tell .start now

/-! ## Replies and the refetch timer -/

/-- A reply came that succeeded and was not too late. -/
def succeeded (b : Board σ) (now : Clock) : Board σ :=
  { b with lastError? := none, lastUpdate? := some now.steady }

/-- Take a reply.  One that came too late has no effects and leaves the status alone. -/
def takeReply [StoreSource σ] (b : Board σ) (reply : StoreReply) (now : Clock) : Board σ :=
  let step := b.view.handle (.ofReply reply) now.wall
  let b := { b with view := step.view }.say step.log
  let b := if reply.isOk && !step.effects.isEmpty then b.succeeded now else b
  b.carryOutAll now step.effects

/-- Take replies until none is left, at most as many as the number says.  A reply may lead to
a call whose reply is there at once.  The clocks are read again for each reply. -/
def drain [StoreSource σ] (clock : Nat → Clock) : Nat → Board σ → Board σ
  | 0, b => b
  | n + 1, b =>
      match StoreSource.poll? b.source with
      | none => b
      | some (reply, source) =>
          drain (fun k => clock (k + 1)) n ({ b with source }.takeReply reply (clock 0))

/-- Fire the refetch timer if it is due. -/
def fireRefetch [StoreSource σ] (b : Board σ) (now : Clock) : Board σ :=
  match b.refetchAt? with
  | some due => if due ≤ now.steady then { b with refetchAt? := none }.tell .refetch now else b
  | none => b

/-- Take all replies, then fire the refetch timer if it is due.  No reply is left: the source has
no more than its `pending`, and each reply takes away more than the calls that follow add. -/
def tick [StoreSource σ] (b : Board σ) (clock : Nat → Clock) (now : Clock) : Board σ :=
  (drain clock (StoreSource.pending b.source) b).fireRefetch now

/-! ## Selectors -/

/-- Move to the selector to the right. -/
def focusNext (b : Board σ) : Board σ := { b with focus := b.focus.next, changed := true }

/-- Move to the selector to the left. -/
def focusPrevious (b : Board σ) : Board σ := { b with focus := b.focus.previous, changed := true }

/-- The event that moves a selector by some places; none if there is nowhere to move.  Transform and
window move by one place, whatever the distance, and to the right if it is zero. -/
def moveOf? (v : View) (selector : Selector) (delta : Int) : Option View.Event :=
  match selector with
  | .metric => (v.cascade.metric.neighbour? delta).map .metricSelected
  | .host => (v.cascade.host.neighbour? delta).map .hostSelected
  | .interface => (v.cascade.interface.neighbour? delta).map .interfaceSelected
  | .transform =>
      some (.transformSelected (if delta < 0 then v.transform.previous else v.transform.next))
  | .window => some (if delta < 0 then .windowHalved else .windowDoubled)

/-- Move the selector in focus. -/
def move [StoreSource σ] (b : Board σ) (delta : Int) (now : Clock) : Board σ :=
  match moveOf? b.view b.focus delta with
  | some event => b.tell event now
  | none => b

/-- Fetch now; if something is not chosen, fill the selectors. -/
def fetchNow [StoreSource σ] (b : Board σ) (now : Clock) : Board σ :=
  b.tell (if b.view.cascade.complete?.isNone then .start else .refetch) now

/-! ## Typing a window -/

/-- Begin to type. -/
def openWindowInput (b : Board σ) : Board σ := { b with windowInput? := some "", changed := true }

/-- Change what was typed so far; nothing happens unless something is being typed. -/
def editWindowInput (b : Board σ) (edit : String → String) : Board σ :=
  match b.windowInput? with
  | some text => { b with windowInput? := some (edit text), changed := true }
  | none => b

/-- Type a character. -/
def typeChar (b : Board σ) (c : Char) : Board σ := b.editWindowInput (·.push c)

/-- Take back the last character. -/
def typeBack (b : Board σ) : Board σ :=
  b.editWindowInput fun text => String.ofList text.toList.dropLast

/-- Give up typing. -/
def closeWindowInput (b : Board σ) : Board σ := { b with windowInput? := none, changed := true }

/-- Take what was typed as the window. -/
def enterWindowInput [StoreSource σ] (b : Board σ) (now : Clock) : Board σ :=
  match b.windowInput? with
  | some text => ({ b with windowInput? := none }.tell (.windowEntered text) now).touch
  | none => b.touch

/-! ## The plot and the mouse -/

/-- The time at a column when a range is spread over a plot of two columns or more; columns beside
the plot count as its first or last. -/
def timeAt (plot : Area) (range : AxisRange) (column : Nat) : Double :=
  let steps := Double.ofNat (plot.nearest column - plot.x)
  let fraction := steps.div (Double.ofNat (plot.width - 1))
  range.min.add (fraction.mul range.width)

/-- The time below a column of the screen. -/
def columnTime? (b : Board σ) (column : Nat) : Option Double :=
  match b.plot?, b.view.bounds? with
  | some plot, some range => if plot.width < 2 then none else some (timeAt plot range column)
  | _, _ => none

/-- A cell lies in the plot. -/
def inPlot (b : Board σ) (column row : Nat) : Bool := b.plot?.any (·.holds column row)

/-- The mouse was pressed. -/
def beginDrag (b : Board σ) (column : Nat) : Board σ :=
  { b with drag? := some ⟨column, column⟩, changed := true }

/-- The mouse moved while it was pressed. -/
def dragTo (b : Board σ) (column : Nat) : Board σ :=
  match b.drag? with
  | some drag => { b with drag? := some { drag with current := column }, changed := true }
  | none => b

/-- The number of columns from one to another. -/
def distance (a b : Nat) : Nat := max a b - min a b

/-- A drag over fewer columns than this is a click. -/
def shortestDrag : Nat := 2

/-- The mouse was let go.  A drag that is more than a click zooms to what lies between its ends. -/
def endDrag [StoreSource σ] (b : Board σ) (column : Nat) (now : Clock) : Board σ :=
  match b.drag? with
  | none => b
  | some drag =>
      let b := { b with drag? := none, changed := true }
      if distance drag.start column < shortestDrag then b
      else
        match b.columnTime? drag.start, b.columnTime? column with
        | some s, some t => b.tell (.zoomSelected (.between s t)) now
        | _, _ => b

/-! ## The rest -/

/-- Show the help, or hide it. -/
def toggleHelp (b : Board σ) : Board σ := { b with helpShown := !b.helpShown, changed := true }

/-- Stop. -/
def quit (b : Board σ) : Board σ := { b with running := false }

end Board

end Meterboard
