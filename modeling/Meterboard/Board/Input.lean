import Meterboard.Board
import Meterboard.Json.Writer

/-!
# Keys and mouse

A key means one of three things.  While the help is shown it hides the help; while a window is being
typed it edits the text; otherwise it is a command.

* `Key`, `Board.key` — the keyboard.
* `Mouse`, `Board.mouse` — the mouse.
* `Reaction` — the board after a key, and what is to be saved.
* `Board.export?` — what is saved: the charted series and the choices behind them, as JSON.
-/

namespace Meterboard

/-! ## Exporting the chart -/

namespace Board

open Wire (Value)

variable {σ : Type}

/-- The file that the series are exported to. -/
def exportFile : String := "instrument_export.json"

/-- The applied range as a pair, or null. -/
def zoomValue : Option AxisRange → Value
  | some r => .list [.double r.min, .double r.max]
  | none => .null

/-- The charted series and the choices behind them. -/
def exportValue (v : View) : Value :=
  .record
    [("host", .textOrNull v.cascade.host.current?),
     ("interface", .textOrNull v.cascade.interface.current?),
     ("metric", .textOrNull v.cascade.metric.current?),
     ("series", .list (v.series.map fun line => line.toValue.sorted)),
     ("transform", .text v.transform.name),
     ("window", .text v.windowLabel),
     ("zoom", zoomValue v.zoom.applied?)]

/-- The text of the export; nothing without a series. -/
def export? (b : Board σ) : Option String :=
  if b.view.series.isEmpty then none else some (Json.pretty (exportValue b.view))

/-- Why there is no text. -/
def nothingToExport : String := "No data to export"

/-- The export was written. -/
def exported (b : Board σ) (now : Clock) : Board σ :=
  b.showMessage ("Exported to " ++ exportFile) now

/-- The export was not written. -/
def exportFailed (b : Board σ) (reason : String) (now : Clock) : Board σ :=
  b.showMessage ("Export failed: " ++ reason) now

end Board

/-! ## Keys and mouse -/

/-- What a key is labelled with. -/
inductive Key.Code where
  | char (c : Char)
  | tab
  /-- Tab with shift, as most terminals send it. -/
  | backTab
  | left
  | right
  | up
  | down
  | enter
  | escape
  | backspace
  /-- A key without a use on the board. -/
  | other
deriving DecidableEq, Repr

/-- A key with the modifiers held down. -/
structure Key where
  code : Key.Code
  shift : Bool
  control : Bool
  alt : Bool
deriving DecidableEq, Repr

/-- The buttons of the mouse. -/
inductive Mouse.Button where
  | left
  | right
  | middle
deriving DecidableEq, Repr

/-- What the mouse did. -/
inductive Mouse.Action where
  | pressed (button : Mouse.Button)
  | dragged (button : Mouse.Button)
  | released (button : Mouse.Button)
  | scrolledUp
  | scrolledDown
  | moved
deriving DecidableEq, Repr

/-- What the mouse did in a cell of the screen. -/
structure Mouse where
  action : Mouse.Action
  column : Nat
  row : Nat
deriving DecidableEq, Repr

/-- The board after a key, and the text that is to be saved as the export. -/
structure Reaction (σ : Type) where
  board : Board σ
  save? : Option String

namespace Board

variable {σ : Type}

/-- A key while a window is being typed. -/
def windowKey [StoreSource σ] (b : Board σ) (k : Key) (now : Clock) : Board σ :=
  match k.code with
  | .enter => b.enterWindowInput now
  | .escape => b.closeWindowInput
  | .backspace => b.typeBack
  | .char c => if c = 'c' && k.control then b.closeWindowInput else b.typeChar c
  | _ => b

/-- The commands that need no more than the board. -/
inductive Command where
  | quit
  | focusNext
  | focusPrevious
  | move (delta : Int)
  | halveWindow
  | doubleWindow
  | openWindowInput
  | zoomOut
  | fetchNow
  | toggleHelp
  | exportSeries
deriving DecidableEq, Repr

/-- The command of a character. -/
def Command.ofChar? (c : Char) (control : Bool) : Option Command :=
  match c with
  | 'q' => some .quit
  | 'c' => if control then some .quit else none
  | 'h' | 'k' => some (.move (-1))
  | 'l' | 'j' => some (.move 1)
  | '<' | '-' => some .halveWindow
  | '>' | '+' => some .doubleWindow
  | 'w' => some .openWindowInput
  | 'z' => some .zoomOut
  | 'r' => some .fetchNow
  | '?' => some .toggleHelp
  | 'e' => some .exportSeries
  | _ => none

/-- The command of a key. -/
def Command.ofKey? (k : Key) : Option Command :=
  match k.code with
  | .char c => Command.ofChar? c k.control
  | .tab => some (if k.shift then .focusPrevious else .focusNext)
  | .backTab => some .focusPrevious
  | .left | .up => some (.move (-1))
  | .right | .down => some (.move 1)
  | .escape | .backspace => some .zoomOut
  | .enter | .other => none

/-- Carry out a command.  The export is handed out; if there is nothing to export, the user is
told. -/
def command [StoreSource σ] (b : Board σ) (now : Clock) : Command → Reaction σ
  | .quit => ⟨b.quit, none⟩
  | .focusNext => ⟨b.focusNext, none⟩
  | .focusPrevious => ⟨b.focusPrevious, none⟩
  | .move delta => ⟨b.move delta now, none⟩
  | .halveWindow => ⟨b.tell .windowHalved now, none⟩
  | .doubleWindow => ⟨b.tell .windowDoubled now, none⟩
  | .openWindowInput => ⟨b.openWindowInput, none⟩
  | .zoomOut => ⟨b.tell .zoomOut now, none⟩
  | .fetchNow => ⟨b.fetchNow now, none⟩
  | .toggleHelp => ⟨b.toggleHelp, none⟩
  | .exportSeries =>
      match b.export? with
      | some text => ⟨b, some text⟩
      | none => ⟨b.exportFailed nothingToExport now, none⟩

/-- A key was pressed. -/
def key [StoreSource σ] (b : Board σ) (k : Key) (now : Clock) : Reaction σ :=
  if b.helpShown then ⟨b.toggleHelp, none⟩
  else if b.windowInput?.isSome then ⟨b.windowKey k now, none⟩
  else
    match Command.ofKey? k with
    | some c => b.command now c
    | none => ⟨b, none⟩

/-- The mouse did something: the left button drags over the plot, the right one zooms out, and the
wheel changes the selector in focus. -/
def mouse [StoreSource σ] (b : Board σ) (m : Mouse) (now : Clock) : Board σ :=
  match m.action with
  | .pressed .left => if b.inPlot m.column m.row then b.beginDrag m.column else b
  | .dragged .left => b.dragTo m.column
  | .released .left => b.endDrag m.column now
  | .pressed .right => b.tell .zoomOut now
  | .scrolledUp => b.move (-1) now
  | .scrolledDown => b.move 1 now
  | _ => b

end Board

end Meterboard
