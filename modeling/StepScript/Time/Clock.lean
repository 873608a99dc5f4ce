import StepScript.Time.Duration
set_option autoImplicit false

/-!
# Time: clocks and tempo

A run hands out its pauses one by one.  A `Clock` lets them pass at once and remembers them; a
`Tempo` says how long a pause lasts at another speed.
-/

namespace StepScript

/-- Every pause so far, in order, and the time they took together. -/
structure Clock where
  elapsed : Duration
  pauses : List Duration
  deriving DecidableEq, Repr

namespace Clock

/-- A clock at zero. -/
def start : Clock := ⟨.zero, []⟩

instance : Inhabited Clock := ⟨start⟩

/-- Lets one pause pass. -/
def pause (c : Clock) (d : Duration) : Clock := ⟨c.elapsed + d, c.pauses ++ [d]⟩

@[simp] theorem elapsed_pause (c : Clock) (d : Duration) :
    (c.pause d).elapsed = c.elapsed + d := rfl

@[simp] theorem pauses_pause (c : Clock) (d : Duration) :
    (c.pause d).pauses = c.pauses ++ [d] := rfl

/-- Number of pauses taken. -/
def count (c : Clock) : Nat := c.pauses.length

end Clock

/-- The factor by which pauses are stretched. -/
structure Tempo where
  scale : Float
  deriving Repr

namespace Tempo

/-- Pauses as long as asked for. -/
def normal : Tempo := ⟨1.0⟩

/-- Plays `speed` times as fast; a speed that is not a positive finite number plays at normal
speed. -/
def ofSpeed (speed : Float) : Tempo :=
  if speed.isFinite && 0.0 < speed then ⟨1.0 / speed⟩ else normal

/-- How long a pause lasts; what is no duration lasts as long as the longest one. -/
def scaled (t : Tempo) (d : Duration) : Duration :=
  (Duration.ofSeconds? (d.seconds * t.scale)).getD .max

end Tempo

end StepScript
