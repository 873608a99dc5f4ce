import StepScript.Time.Duration
set_option autoImplicit false

/-!
# Runs: kinds and pacing

There are three kinds of simulator, and each paces its runs in its own way.  A pacing says how long
a run pauses where, in milliseconds.
-/

namespace StepScript

/-- The three simulators. -/
inductive Kind where
  /-- The turtle on its own. -/
  | turtle
  /-- The turtle with an apple to reach. -/
  | game
  /-- The panel of lamps. -/
  | led
  deriving DecidableEq, Repr, Inhabited

namespace Kind

/-- Name of a kind. -/
def name : Kind → String
  | .turtle => "turtle"
  | .game => "game"
  | .led => "led"

/-- The kinds by name. -/
def ofExactName? (s : String) : Option Kind :=
  if s = "turtle" then some .turtle
  else if s = "game" then some .game
  else if s = "led" then some .led
  else none

end Kind

/-- How long a run pauses where, in milliseconds. -/
structure Pacing where
  /-- After the first render, before the first line. -/
  settle : UInt64
  /-- On a blank line. -/
  blank : UInt64
  /-- On a line that changed nothing. -/
  idle : UInt64
  /-- On a line that changed the world. -/
  effect : UInt64
  /-- On the line that failed. -/
  error : UInt64
  /-- After the last line, before the run concludes. -/
  tail : UInt64
  deriving DecidableEq, Repr

namespace Pacing

/-- Pacing of the turtle. -/
def turtle : Pacing := ⟨500, 100, 200, 600, 1000, 1000⟩

/-- Pacing of the game: as the turtle, with a shorter tail. -/
def game : Pacing := { turtle with tail := 500 }

/-- Pacing of the panel: every line that is not blank waits the same. -/
def led : Pacing := ⟨0, 100, 500, 500, 1000, 0⟩

/-- No pause lasts any time. -/
def instant : Pacing := ⟨0, 0, 0, 0, 0, 0⟩

/-- Pacing of a kind. -/
def ofKind : Kind → Pacing
  | .turtle => turtle
  | .game => game
  | .led => led

/-- The six delays in order. -/
def delays (p : Pacing) : List UInt64 :=
  [p.settle, p.blank, p.idle, p.effect, p.error, p.tail]

end Pacing

end StepScript
