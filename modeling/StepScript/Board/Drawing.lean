import StepScript.Board.Turtle
import StepScript.Number.Rounding
set_option autoImplicit false

/-!
# Board: the drawing

The board is drawn row by row, cells apart by a space.  The turtle is an arrow on the cell nearest
to its position, the target is `@`, every other cell is a dot.  A status line follows.
-/

namespace StepScript

namespace Turtle

/-- The arrow nearest to the heading.  A heading that is not a number points up. -/
def glyph (t : Turtle) : Char :=
  let h := t.pose.foldedHeading
  if !(45.0 ≤ h && h < 315.0) then '^'
  else if h < 135.0 then '>'
  else if h < 225.0 then 'v'
  else '<'

/-- Whether the turtle is drawn on a cell. -/
def isOn (t : Turtle) (column row : Nat) : Bool :=
  nearestInt? t.pose.x == some (column : Int) && nearestInt? t.pose.y == some (row : Int)

/-- What is drawn on a cell. -/
def cell (t : Turtle) (column row : Nat) : Char :=
  if t.isOn column row then t.glyph
  else if t.target == some ⟨UInt32.ofNat column, UInt32.ofNat row⟩ then '@'
  else '.'

/-- The cells of one row. -/
def row (t : Turtle) (row : Nat) : List Char :=
  (List.range t.guard.gridSize.toNat).map fun column => t.cell column row

/-- The line below the board. -/
def status (t : Turtle) : String :=
  "x=" ++ fixedPlaces 2 t.pose.x ++ " y=" ++ fixedPlaces 2 t.pose.y ++
    " heading=" ++ fixedPlaces 0 t.pose.foldedHeading ++ "°"

/-- The board and its status line. -/
def draw (t : Turtle) : String :=
  String.join ((List.range t.guard.gridSize.toNat).map fun row =>
    String.ofList ((t.row row).intersperse ' ') ++ "\n") ++ t.status

end Turtle

end StepScript
