import StepScript.Number.Geometry
set_option autoImplicit false

/-!
# Board: cells and poses

A cell is a column and a row, counted from the top left corner.  A pose is a position between cells
and a heading in degrees, clockwise from up and not folded into one turn.  A move of `d` from
heading `h` goes to `(x + cos (h - 90°) · d, y + sin (h - 90°) · d)`, so the home heading of 90°
points along the row.
-/

namespace StepScript

/-- A board cell. -/
structure Square where
  x : UInt32
  y : UInt32
  deriving DecidableEq, Repr, Inhabited

namespace Square

/-- The start cell. -/
def origin : Square := ⟨0, 0⟩

end Square

/-- Position and heading of the turtle. -/
structure Pose where
  x : Float
  y : Float
  heading : Float
  deriving DecidableEq, Repr

namespace Pose

/-- Start pose: on the start cell, facing along the row. -/
def home : Pose := ⟨0.0, 0.0, 90.0⟩

instance : Inhabited Pose := ⟨home⟩

/-- Heading folded into one turn. -/
def foldedHeading (p : Pose) : Float := foldAngle p.heading

/-- Displacement of a move along the heading. -/
def displacement (p : Pose) (distance : Float) : Float × Float :=
  let angle := radians (p.heading - 90.0)
  (cosine angle * distance, sine angle * distance)

/-- Distance to the middle of a cell. -/
def distanceTo (p : Pose) (s : Square) : Float :=
  hypotenuse (p.x - s.x.toFloat) (p.y - s.y.toFloat)

end Pose

end StepScript
