import StepScript.Board.Turtle
import StepScript.Config.Basic
import StepScript.Game.Generator
import StepScript.Run.Simulator
set_option autoImplicit false

/-!
# The game: the turtle and the apple

Play opens a play session: it ends any run, puts the world back to its first state and drops an
apple on a random cell other than the start cell.  The next run that ends without an error closes
the session; an aborted or cancelled run leaves it open.
-/

namespace StepScript

/-- Draws cells until one is not the start cell, at most so many times. -/
def drawTarget? : Nat → UInt32 → Generator → Option (Square × Generator)
  | 0, _, _ => none
  | fuel + 1, size, g =>
      let (x, g) := g.below size
      let (y, g) := g.below size
      if (⟨x, y⟩ : Square) = .origin then drawTarget? fuel size g else some (⟨x, y⟩, g)

/-- A random cell other than the start cell, on a board with two cells on a side or more. -/
def drawTarget (size : UInt32) (g : Generator) : Square × Generator :=
  (drawTarget? Generator.period size g).getD (⟨1, 0⟩, g)

/-- The turtle simulator with an apple to reach. -/
structure Game where
  simulator : Simulator Turtle
  seed : UInt64
  generator : Generator
  deriving DecidableEq, Repr

/-- What opening a play session leaves. -/
structure Opening (V : Type) where
  target : Square
  game : Game
  view : V

namespace Config

/-- The turtle of a configuration, at home. -/
def turtle (c : Config) : Turtle :=
  .new ⟨c.board.gridSize, c.board.epsilon⟩ c.game.winRadius

/-- The turtle simulator of a configuration. -/
def turtleSimulator (c : Config) : Simulator Turtle := .new c.turtle c.effectivePacing

end Config

namespace Game

/-- A game of a configuration; it is paced as a game, whatever kind the configuration names. -/
def ofConfig (c : Config) : Game :=
  ⟨.new c.turtle (c.pacing.getD .game), c.seed, .ofSeed c.seed⟩

section View

variable {V : Type} [View V Turtle]

/-- Opens a play session. -/
def play (g : Game) (v : V) : Opening V :=
  let (s, v) := g.simulator.reset v
  let (target, generator) := drawTarget s.world.guard.gridSize g.generator
  let s := { s with world := s.world.setTarget (some target) }
  let v := View.observe v (Event.render s.world)
  ⟨target, { g with simulator := s, generator := generator },
    View.observe v (Event.notice (W := Turtle) (.gameStarted target))⟩

/-- Takes a run to its next pause. -/
def advance (g : Game) (v : V) : Step × Game × V :=
  let p := g.simulator.advance v
  (p.step, { g with simulator := p.simulator }, p.view)

/-- Ends any run and the play session. -/
def reset (g : Game) (v : V) : Game × V :=
  let (s, v) := g.simulator.reset v
  ({ g with simulator := s }, v)

/-- Runs a text to its end. -/
def runBlocking (g : Game) (text : String) (v : V) (clock : Clock) :
    Option Outcome × Game × V × Clock :=
  let c := g.simulator.runBlocking text v clock
  (c.outcome, { g with simulator := c.simulator }, c.view, c.clock)

end View

/-- Starts a run of a text, and says whether it did. -/
def start (text : String) : StateM Game Bool :=
  passOn simulator (fun g s => { g with simulator := s }) (Simulator.start text)

/-- The game with a run of a text, unless the request is dropped. -/
def run? (g : Game) (text : String) : Option Game := granted? (start text) g

theorem run?_eq (g : Game) (text : String) :
    g.run? text = (g.simulator.run? text).map fun s => { g with simulator := s } :=
  granted?_passOn simulator _ _ g

/-- Whether a play session is open. -/
def isPlaying (g : Game) : Bool := g.simulator.world.isPlaying

end Game

end StepScript
