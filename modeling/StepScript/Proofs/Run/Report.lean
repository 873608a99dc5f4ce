import StepScript.Proofs.Game.Machine
import StepScript.Proofs.Run.Blocking
set_option autoImplicit false

/-!
# Runs: reports

The report of a run to the end has all that it left: how it ended, the state, the events and the
pauses.

Main statements: `Simulator.report_of_begun`, by which the report of a run that is accepted is read
off the transcript, and `Game.report_eq`, by which a game reports what its simulator does.
-/

namespace StepScript

/-- A run to the end: how it ended, what it left, what it showed and the time it took. -/
structure RunReport (S W : Type) where
  outcome : Option Outcome
  state : S
  recording : Recording W
  clock : Clock

/-- The same report, seen from around the state. -/
def RunReport.map {S T W : Type} (f : S → T) (r : RunReport S W) : RunReport T W :=
  ⟨r.outcome, f r.state, r.recording, r.clock⟩

/-- A simulator's report of a text. -/
def Simulator.report {W : Type} [World W] (s : Simulator W) (text : String) :
    RunReport (Simulator W) W :=
  let c := s.runBlocking text (Recording.empty : Recording W) Clock.start
  ⟨c.outcome, c.simulator, c.view, c.clock⟩

/-- A game's report of a text. -/
def Game.report (g : Game) (text : String) : RunReport Game Turtle :=
  let (outcome, left, r, clock) :=
    g.runBlocking text (Recording.empty : Recording Turtle) Clock.start
  ⟨outcome, left, r, clock⟩

theorem Game.report_eq (g : Game) (text : String) :
    g.report text = (g.simulator.report text).map g.withSimulator := rfl

section Run

variable {W : Type} [World W]

/-- The report of a run with a transcript. -/
def Transcript.report (t : Transcript W) (s : Simulator W) : RunReport (Simulator W) W where
  outcome := some t.outcome
  state := { s with world := t.world, session := none, accepted := s.accepted + 1 }
  recording := ⟨t.events⟩
  clock := Clock.start.pauseAll t.pauses

/-- The report of a run that is accepted is that of its transcript. -/
theorem Simulator.report_of_begun {s : Simulator W} {text : String} {w : W}
    (hfree : s.isRunning = false)
    (hbegun : World.begin? s.world (Script.parse text) = some w) :
    s.report text = ((Script.parse text).transcript s.pacing w).report s := by
  rw [report, runBlocking_of_begun hfree hbegun]
  simp only [Recording.replay_eq]
  rfl

/-- A run that is accepted has found a simulator free and a world that takes the script. -/
theorem Simulator.begun_of_isSome {s : Simulator W} {text : String}
    (h : (s.run? text).isSome = true) :
    s.isRunning = false ∧ ∃ w, World.begin? s.world (Script.parse text) = some w := by
  obtain ⟨started, hrun⟩ := Option.isSome_iff_exists.mp h
  obtain ⟨hfree, w, hbegun, -⟩ := (run?_eq_some_iff s text started).mp hrun
  exact ⟨hfree, w, hbegun⟩

end Run

end StepScript
