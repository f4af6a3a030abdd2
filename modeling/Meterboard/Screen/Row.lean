import Meterboard.Board

/-!
# Rows of the screen

The screen is drawn row by row, one character to a cell.

* `Cell`, `Row` — a row as the list of its cells.
* `Span`, `Row.ofSpans` — pieces of text of one ink each, laid into a row of some width.
* `Row.runs`, `Row.text` — a row as its longest spans, and without ink.
* `Row.cover`, `Rows.cover` — one row, or a box of rows, drawn over others.
* `Rows.framed` — a frame with rounded corners and a title around some rows.
-/

namespace Meterboard.Screen

/-- What one cell shows. -/
structure Cell where
  char : Char
  ink : Ink
deriving DecidableEq, Repr

/-- A row from left to right. -/
abbrev Row := List Cell

/-- Text of one ink. -/
structure Span where
  text : String
  ink : Ink
deriving DecidableEq, Repr

/-- A control character, which takes no cell. -/
def isControl (c : Char) : Bool := c.toNat < 0x20 || 0x7F ≤ c.toNat && c.toNat < 0xA0

/-- The cells of a text. -/
def Span.cells (s : Span) : Row :=
  (s.text.toList.filter (!isControl ·)).map fun c => ⟨c, s.ink⟩

namespace Row

/-- Cells cut or filled up to a width. -/
def fit (width : Nat) (filler : Cell) (row : Row) : Row :=
  row.take width ++ List.replicate (width - row.length) filler

/-- A blank cell. -/
def blank : Cell := ⟨' ', .plain⟩

/-- Spans one after the other from the left, cut or filled up with blanks. -/
def ofSpans (width : Nat) (spans : List Span) : Row :=
  fit width blank (spans.flatMap Span.cells)

/-- The first line of a text from the left; a paragraph of one row shows no more. -/
def ofText (width : Nat) (ink : Ink) (text : String) : Row :=
  ofSpans width [⟨String.ofList (text.toList.takeWhile (· ≠ '\n')), ink⟩]

/-- A text in the middle, cut if it does not fit. -/
def centred (width : Nat) (ink : Ink) (text : String) : Row :=
  let cells := (Span.cells ⟨text, ink⟩).take width
  fit width blank (List.replicate (width / 2 - cells.length / 2) blank ++ cells)

/-- The text of a row without the blanks at its end. -/
def text (row : Row) : String :=
  String.ofList ((row.map (·.char)).reverse.dropWhile (· = ' ')).reverse

/-- Put a cell in front of spans; it joins the first one if the ink is the same. -/
def join (c : Cell) : List (List Char × Ink) → List (List Char × Ink)
  | [] => [([c.char], c.ink)]
  | (cs, ink) :: rest =>
      if c.ink = ink then (c.char :: cs, ink) :: rest
      else ([c.char], c.ink) :: (cs, ink) :: rest

/-- A row as spans, each as long as its ink lasts. -/
def runs (row : Row) : List Span :=
  (row.foldr join []).map fun run => ⟨String.ofList run.1, run.2⟩

/-- A row with another one drawn over it from a column on. -/
def cover (below : Row) (column : Nat) (above : Row) : Row :=
  below.take column ++ above ++ below.drop (column + above.length)

end Row

namespace Rows

/-- Rows with a box drawn over them; its first row lands on the row of that number. -/
def cover (below : List Row) (column row : Nat) (above : List Row) : List Row :=
  below.mapIdx fun i line =>
    if row ≤ i then
      match above[i - row]? with
      | some piece => line.cover column piece
      | none => line
    else line

/-- A line of a frame between two corners. -/
def edge (width : Nat) (ink : Ink) (left right : Char) (title : Row) : Row :=
  [⟨left, ink⟩] ++ Row.fit (width - 2) ⟨'─', ink⟩ title ++ [⟨right, ink⟩]

/-- A frame of some size around rows; a title breaks its upper edge. -/
def framed (width height : Nat) (ink : Ink) (title : Span) (content : List Row) : List Row :=
  let side : Cell := ⟨'│', ink⟩
  let line (row : Row) : Row := [side] ++ Row.fit (width - 2) Row.blank row ++ [side]
  let inside := (content ++ List.replicate (height - 2 - content.length) []).take (height - 2)
  [edge width ink '╭' '╮' title.cells] ++ inside.map line ++ [edge width ink '╰' '╯' []]

end Rows

end Meterboard.Screen
