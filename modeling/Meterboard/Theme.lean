/-!
# Themes

A theme says in which colours the board is drawn.  There is one for dark terminals and one for light
ones.

* `Color`, `Color.name` — the colours of a terminal.
* `Ink` — how a piece of text is drawn.
* `Theme.dark`, `Theme.light`, `Theme.seriesColor`.
-/

namespace Meterboard

/-- A colour of the terminal's own palette; `reset` leaves what the terminal has. -/
inductive Color where
  | reset
  | red
  | green
  | yellow
  | blue
  | magenta
  | cyan
  | gray
  | darkGray
  | lightRed
  | lightBlue
deriving DecidableEq, Repr

/-- The name of a colour. -/
def Color.name : Color → String
  | .reset => "Reset"
  | .red => "Red"
  | .green => "Green"
  | .yellow => "Yellow"
  | .blue => "Blue"
  | .magenta => "Magenta"
  | .cyan => "Cyan"
  | .gray => "Gray"
  | .darkGray => "DarkGray"
  | .lightRed => "LightRed"
  | .lightBlue => "LightBlue"

/-- How text is drawn. -/
structure Ink where
  color : Color
  bold : Bool
deriving DecidableEq, Repr

namespace Ink

/-- As the terminal draws text by itself. -/
def plain : Ink := ⟨.reset, false⟩

/-- Text of a colour. -/
def of (color : Color) : Ink := ⟨color, false⟩

/-- Bold text of a colour. -/
def strong (color : Color) : Ink := ⟨color, true⟩

end Ink

/-- The colours of the board. -/
structure Theme where
  /-- Accents. -/
  highlight : Color
  /-- The mark of a failure. -/
  error : Color
  /-- Frames and axes. -/
  border : Color
  /-- Curves, in the order of the series. -/
  series : List Color
  /-- The ground behind a selected stretch of the chart. -/
  selection : Color
  /-- The selector that the keys change. -/
  focused : Ink
  /-- The other selectors. -/
  unfocused : Ink
  title : Ink
deriving DecidableEq, Repr

namespace Theme

/-- For dark terminals. -/
def dark : Theme where
  highlight := .cyan
  error := .red
  border := .gray
  series := [.cyan, .yellow, .magenta, .green, .lightRed, .lightBlue]
  selection := .darkGray
  focused := .strong .cyan
  unfocused := .of .gray
  title := .strong .cyan

/-- For light terminals. -/
def light : Theme where
  highlight := .blue
  error := .red
  border := .darkGray
  series := [.blue, .red, .magenta, .green, .darkGray, .cyan]
  selection := .lightBlue
  focused := .strong .blue
  unfocused := .of .darkGray
  title := .strong .blue

/-- The colour of a curve: the colours are used in turn, and the accent stands in for none. -/
def seriesColor (t : Theme) (index : Nat) : Color :=
  (t.series[index % t.series.length]?).getD t.highlight

end Theme

end Meterboard
