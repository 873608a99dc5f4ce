import StepScript.Game.Basic
import StepScript.Proofs.Run.Machine
set_option autoImplicit false

/-!
# The game: a host of its simulator

The game passes the requests to its simulator on.  Its own request is play, which restarts the
simulator with a target.

Main statements: `perform_plain`, what the game does with the requests it passes on,
`perform_play`, all that play does, and `simulator_perform`, by which the game keeps what its
simulator keeps.
-/

namespace StepScript

/-- A request to the game. -/
inductive GameRequest where
  | play
  | plain (r : Request)
  deriving DecidableEq, Repr

namespace Game

/-- The same game around another simulator. -/
def withSimulator (g : Game) (s : Simulator Turtle) : Game := { g with simulator := s }

/-- The game's response to a request, its events recorded. -/
def perform (g : Game) : GameRequest → Response Game Turtle
  | .play =>
      let o := g.play (Recording.empty : Recording Turtle)
      ⟨.placed o.target, o.view.events, o.game⟩
  | .plain (.run text) => .ofStart (start text g)
  | .plain .advance =>
      let (step, g, r) := g.advance (Recording.empty : Recording Turtle)
      ⟨.step step, r.events, g⟩
  | .plain .reset =>
      let (g, r) := g.reset (Recording.empty : Recording Turtle)
      ⟨.done, r.events, g⟩
  | .plain (.setPacing p) => ⟨.done, [], g.withSimulator (g.simulator.setPacing p)⟩
  | .plain (.cancel t) => ⟨.done, [], g.withSimulator (g.simulator.cancel t)⟩

/-- The target that play draws next. -/
def nextTarget (g : Game) : Square := (drawTarget g.simulator.world.guard.gridSize g.generator).1

/-- Play draws a target and restarts the simulator with it. -/
theorem perform_play (g : Game) :
    g.perform .play =
      (g.simulator.restart g.nextTarget
        (g.simulator.world.reset.setTarget (some g.nextTarget))).map fun s =>
          { g with
            simulator := s
            generator := (drawTarget g.simulator.world.guard.gridSize g.generator).2 } := rfl

/-- The simulator that play leaves, whatever looks at it. -/
theorem simulator_play {V : Type} [View V Turtle] (g : Game) (v : V) :
    (g.play v).game.simulator =
      (g.simulator.restart g.nextTarget
        (g.simulator.world.reset.setTarget (some g.nextTarget))).state := rfl

theorem perform_plain (g : Game) (r : Request) :
    g.perform (.plain r) = (g.simulator.perform r).map g.withSimulator := by
  cases r with
  | run text => rfl
  | advance => rfl
  | reset => rfl
  | setPacing p => rfl
  | cancel t => rfl

instance : Host Game GameRequest Turtle where
  perform := perform
  simulator := Game.simulator
  put := withSimulator
  plain := .plain
  simulator_put _ _ := rfl
  put_simulator _ := rfl
  perform_plain := perform_plain
  perform_other g r :=
    match r with
    | .plain q => .inl ⟨q, rfl⟩
    | .play => .inr ⟨_, _, congrArg (Response.map Game.simulator) g.perform_play⟩

/-- What the requests to a simulator keep, and the restart of play as well, every request to the game
keeps of its simulator. -/
theorem simulator_perform {P : Simulator Turtle → Prop}
    (hplain : ∀ s r, P s → P (s.perform r).state)
    (hplay : ∀ s target, P s →
      P (s.restart target (s.world.reset.setTarget (some target))).state)
    (g : Game) (r : GameRequest) (h : P g.simulator) :
    P (Machine.perform g r).state.simulator := by
  cases r with
  | play =>
      change P (g.perform .play).state.simulator
      rw [perform_play]
      exact hplay g.simulator g.nextTarget h
  | plain r =>
      change P (g.perform (.plain r)).state.simulator
      rw [perform_plain]
      exact hplain g.simulator r h

end Game

end StepScript
