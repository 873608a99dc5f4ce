set_option autoImplicit false

/-!
# Board: the guard

Before a move is made, the position it asks for is checked against `[-ε, size - 1 + ε]` on both
axes.  A position outside is refused as a whole; nothing is cut back to the board.  Every comparison
with what is not a number fails, so such a position is refused as well.
-/

namespace StepScript

/-- The bounds of a square board, with a tolerance. -/
structure Guard where
  gridSize : UInt32
  epsilon : Float
  deriving DecidableEq, Repr

/-- A move that would leave the board, with the position it asked for. -/
structure InvalidMove where
  x : Float
  y : Float
  deriving DecidableEq, Repr

namespace Guard

/-- Largest cell coordinate; a board without cells has `0`. -/
def maxCoordinate (g : Guard) : Float :=
  (if g.gridSize = 0 then 0 else g.gridSize - 1).toFloat

/-- Whether a coordinate lies within the tolerant range. -/
def axisContains (g : Guard) (value : Float) : Bool :=
  -g.epsilon ≤ value && value ≤ g.maxCoordinate + g.epsilon

/-- Whether a position lies on the board. -/
def accepts (g : Guard) (x y : Float) : Bool := g.axisContains x && g.axisContains y

/-- Checks a position. -/
def check (g : Guard) (x y : Float) : Except InvalidMove Unit :=
  if g.accepts x y then .ok () else .error ⟨x, y⟩

theorem check_eq_ok_iff (g : Guard) (x y : Float) :
    g.check x y = .ok () ↔ g.accepts x y = true := by
  unfold check
  split <;> simp_all

theorem check_eq_error_iff (g : Guard) (x y : Float) (e : InvalidMove) :
    g.check x y = .error e ↔ g.accepts x y = false ∧ e = ⟨x, y⟩ := by
  unfold check
  split
  · simp_all
  · constructor
    · intro h
      cases h
      exact ⟨by simp_all, rfl⟩
    · rintro ⟨-, rfl⟩
      rfl

end Guard

end StepScript
