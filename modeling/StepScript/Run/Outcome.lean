import StepScript.Time.Duration
set_option autoImplicit false

/-!
# Runs: effects, verdicts, outcomes and steps

What one command does to a world, how a play session is judged, how a run ends, and what one advance
of a run reports.
-/

namespace StepScript

/-- What one command did: nothing, a change of the world, or a pause of its own length. -/
inductive Effect where
  | idle
  | changed
  | wait (d : Duration)
  deriving DecidableEq, Repr

/-- Judgement of a concluded play session. -/
inductive Verdict where
  | win
  | lose
  deriving DecidableEq, Repr

/-- How a run ended. -/
inductive Outcome where
  /-- Every line ran; there was nothing to judge. -/
  | completed
  /-- Every line ran and the play session was won. -/
  | won
  /-- Every line ran and the play session was lost. -/
  | lost
  /-- The line with this index failed; the lines after it were skipped. -/
  | aborted (line : Nat)
  /-- The run was cancelled. -/
  | cancelled
  deriving DecidableEq, Repr

namespace Outcome

/-- Whether every line ran. -/
def ranToEnd : Outcome → Bool
  | .completed | .won | .lost => true
  | .aborted _ | .cancelled => false

/-- The outcome of a run with a verdict. -/
def ofVerdict : Verdict → Outcome
  | .win => .won
  | .lose => .lost

/-- One-line summary of a finished run; lines are counted from one. -/
def summary : Outcome → String
  | .completed => "✓ Run completed"
  | .won => "✓ Game won"
  | .lost => "✗ Game lost"
  | .aborted line => "✗ Run aborted at line " ++ toString (line + 1)
  | .cancelled => "✗ Run cancelled"

end Outcome

/-- Exit status of a run: `0` for one that went well or was never started, `2` for a lost game, `1`
for the others. -/
def exitStatus : Option Outcome → UInt32
  | none => 0
  | some .completed => 0
  | some .won => 0
  | some .lost => 2
  | some (.aborted _) => 1
  | some .cancelled => 1

/-- What one advance reports: a pause to take before the next one, the end of the run, or that there
is no run. -/
inductive Step where
  | pause (d : Duration)
  | finished (o : Outcome)
  | idle
  deriving DecidableEq, Repr

end StepScript
