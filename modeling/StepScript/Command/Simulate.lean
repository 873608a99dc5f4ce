import StepScript.Game.Basic
import StepScript.View.Terminal
set_option autoImplicit false

/-!
# Commands: simulating a text

A text is run once, to its end, on the simulator that a configuration names, and shown on a terminal.
The stage is what is ready before the run: the simulator of the kind, for a game after one play, and
the view as it is then.  It takes any view in place of the terminal.
-/

namespace StepScript

/-- What simulators of a kind act on. -/
def Kind.Scene : Kind → Type
  | .turtle => Turtle
  | .game => Turtle
  | .led => Panel

instance : (k : Kind) → World k.Scene
  | .turtle => inferInstanceAs (World Turtle)
  | .game => inferInstanceAs (World Turtle)
  | .led => inferInstanceAs (World Panel)

instance : (k : Kind) → Drawn k.Scene
  | .turtle => inferInstanceAs (Drawn Turtle)
  | .game => inferInstanceAs (Drawn Turtle)
  | .led => inferInstanceAs (Drawn Panel)

/-- A simulator of a kind and what looks at it. -/
structure Stage (k : Kind) (V : Type) where
  simulator : Simulator k.Scene
  view : V

/-- Runs a text to its end. -/
def Stage.run {k : Kind} {V : Type} [View V k.Scene] (s : Stage k V) (text : String)
    (clock : Clock) : Completion k.Scene V :=
  s.simulator.runBlocking text s.view clock

/-- What a simulation leaves. -/
structure Simulation where
  outcome : Option Outcome
  terminal : Terminal
  clock : Clock

/-- A run to its end on a terminal, as a simulation. -/
def Completion.simulation {W : Type} (done : Completion W Terminal) : Simulation :=
  ⟨done.outcome, done.view, done.clock⟩

@[simp] theorem Completion.outcome_simulation {W : Type} (done : Completion W Terminal) :
    done.simulation.outcome = done.outcome := rfl

namespace Config

variable {V : Type}

/-- The panel simulator of a configuration. -/
def panelSimulator (c : Config) : Simulator Panel := .new .off c.effectivePacing

/-- The stage of a configuration as one of the kind `k`; a game has been played once. -/
def stageAs (c : Config) (v : V) : (k : Kind) → [View V k.Scene] → Stage k V
  | .turtle, _ => ⟨c.turtleSimulator, v⟩
  | .game, inst =>
      let opening := @Game.play V inst (Game.ofConfig c) v
      ⟨opening.game.simulator, opening.view⟩
  | .led, _ => ⟨c.panelSimulator, v⟩

/-- The stage of a configuration, before its run. -/
def stage (c : Config) [View V c.kind.Scene] (v : V) : Stage c.kind V := c.stageAs v c.kind

/-- The terminal of a simulation before anything is shown on it. -/
def openingScreen (text : String) (sink : Sink) : Terminal :=
  (Terminal.new sink).loadScript (Script.parse text)

end Config

/-- Runs a text on the simulator that a configuration names. -/
def simulate (c : Config) (text : String) (sink : Sink) (clock : Clock) : Simulation :=
  ((c.stage (Config.openingScreen text sink)).run text clock).simulation

end StepScript
