import Meterboard.Screen.Bars
import Meterboard.Screen.Chart

/-!
# The screen

Header and selectors take a row each at the top, the status bar one at the bottom, and the chart all
between.  The help is drawn over them.  A terminal that is too small only says so.

* `Picture` — what is on the screen.
* `Screen.helpArea`, `Screen.helpRows` — the box that explains the keys, and where it lies.
* `Board.picture` — the picture of a board on a terminal of some size.
* `Board.draw` — the same, and the board remembers where the plot lies.
-/

namespace Meterboard

/-- What is on the screen. -/
inductive Picture where
  /-- The terminal is too small. -/
  | tooSmall (rows : List Screen.Row)
  /-- There is no chart yet. -/
  | waiting (rows : List Screen.Row)
  /-- There is a chart below the header and the selectors; the box of the help may lie over it. -/
  | charted (top : List Screen.Row) (chart : Chart) (status : Screen.Row)
      (help? : Option (List Screen.Row))

/-- Where the plot lies in a picture. -/
def Picture.plot? : Picture → Option Area
  | .charted _ chart _ _ => some chart.plot
  | _ => none

namespace Screen

/-- The smallest width the board is drawn at. -/
def minWidth : Nat := 60

/-- The smallest height the board is drawn at. -/
def minHeight : Nat := 12

/-- A size as columns and rows. -/
def sizeText (width height : Nat) : String := toString width ++ "x" ++ toString height

/-- What a terminal says that is too small. -/
def tooSmallLines (width height : Nat) : List String :=
  ["Terminal too small: " ++ sizeText width height,
   "Minimum: " ++ sizeText minWidth minHeight,
   "",
   "Resize to continue"]

/-- The screen of a terminal that is too small. -/
def tooSmallRows (width height : Nat) : List Row :=
  let blank := List.replicate height (Row.ofSpans width [])
  Rows.cover blank 0 (height / 2 - 2)
    ((tooSmallLines width height).map (Row.centred width (.of .yellow)))

/-! ## The help -/

/-- A line of the help. -/
inductive HelpLine where
  | title (text : String)
  | section (text : String)
  | entry (text : String)

/-- What the help says. -/
def helpLines : List HelpLine :=
  [.title "Keyboard Shortcuts",
   .entry "",
   .section " Selectors",
   .entry "  Tab/S-Tab   Focus next/previous",
   .entry "  ←/→ h/l     Change focused value",
   .entry "",
   .section " Time window",
   .entry "  < / >       Halve / double",
   .entry "  w           Type a window (6h, 2d)",
   .entry "",
   .section " Zoom",
   .entry "  drag        Zoom to range",
   .entry "  z / Esc     Zoom out",
   .entry "  right-click Zoom out",
   .entry "",
   .section " General",
   .entry "  r           Fetch now",
   .entry "  e           Export to JSON",
   .entry "  q           Quit",
   .entry "",
   .entry "Press any key to close"]

/-- A line of the help with its ink. -/
def HelpLine.span (theme : Theme) : HelpLine → Span
  | .title text => ⟨text, theme.title⟩
  | .section text => ⟨text, .strong .reset⟩
  | .entry text => ⟨text, .plain⟩

/-- The help lies in the middle and leaves a margin. -/
def helpArea (screen : Area) : Area :=
  screen.centred (min 42 (screen.width - 4)) (min 26 (screen.height - 2))

/-- The box of the help. -/
def helpRows (theme : Theme) (screen : Area) : List Row :=
  let area := helpArea screen
  let ink := Ink.of theme.highlight
  Rows.framed area.width area.height ink ⟨" Help ", ink⟩
    (helpLines.map fun line => (line.span theme).cells)

/-! ## The picture -/

/-- The chart's part of the screen. -/
def chartArea (width height : Nat) : Area := ⟨0, 2, width, height - 3⟩

end Screen

namespace Board

open Screen (Row)

variable {σ : Type} [StoreSource σ]

/-- The picture of the board on a terminal of some size, in a time zone. -/
def picture (b : Board σ) (zone : Calendar.Zone) (now : Clock) (width height : Nat) : Picture :=
  if width < Screen.minWidth || height < Screen.minHeight then
    .tooSmall (Screen.tooSmallRows width height)
  else
    let screen : Area := ⟨0, 0, width, height⟩
    let area := Screen.chartArea width height
    let box := Screen.helpArea screen
    let help := Screen.helpRows b.theme screen
    let cover (rows : List Row) : List Row :=
      if b.helpShown then Screen.Rows.cover rows box.x box.y help else rows
    let top := [Row.ofSpans width (b.headerSpans now), Row.ofSpans width b.selectorSpans]
    let status := Row.ofText width .plain (b.statusText now)
    match b.chart? zone area with
    | none => .waiting (cover (top ++ b.waitingRows area ++ [status]))
    | some chart => .charted (cover top) chart status (if b.helpShown then some help else none)

/-- Draw the board; it remembers where the plot lies. -/
def draw (b : Board σ) (zone : Calendar.Zone) (now : Clock) (width height : Nat) :
    Picture × Board σ :=
  let p := b.picture zone now width height
  (p, { b with plot? := p.plot? })

end Board

end Meterboard
