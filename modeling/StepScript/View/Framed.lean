import StepScript.Game.Basic
import StepScript.Json.Run
set_option autoImplicit false

/-!
# Views: simulators that answer with frames

A page drives a simulator call by call and draws what each call returns.  A framed simulator keeps
its own recording; an advance, a reset and a play each answer with the JSON text of one frame, which
holds the step and all events since the last frame.  A reset or play is followed by one advance at
once, so a cancelled run is reported in the same frame.
-/

namespace StepScript

/-- A simulator with the recording its events go to. -/
structure Framed (W : Type) where
  simulator : Simulator W
  log : Recording W

namespace Framed

variable {W : Type}

/-- A framed simulator with nothing recorded. -/
def new (s : Simulator W) : Framed W := ⟨s, .empty⟩

/-- Whether a run is in progress. -/
def isRunning (f : Framed W) : Bool := f.simulator.isRunning

section World

variable [World W]

/-- Starts a run of a text, and says whether it did. -/
def start (text : String) : StateM (Framed W) Bool :=
  passOn simulator (fun f s => { f with simulator := s }) (Simulator.start text)

/-- The simulator with a run of a text, unless the request is dropped. -/
def run? (f : Framed W) (text : String) : Option (Framed W) := granted? (start text) f

/-- Advances and packs the frame. -/
def advance (f : Framed W) : Frame W × Framed W :=
  let p := f.simulator.advance f.log
  let (frame, log) := p.view.frame p.step
  (frame, ⟨p.simulator, log⟩)

/-- Resets, advances once and packs the frame. -/
def reset (f : Framed W) : Frame W × Framed W :=
  let (s, log) := f.simulator.reset f.log
  advance ⟨s, log⟩

end World

end Framed

/-- The turtle on its standard board. -/
def framedTurtle : Framed Turtle := .new (Config.ofKind .turtle).turtleSimulator

/-- The panel, all lamps off. -/
def framedPanel : Framed Panel := .new (.new .off (Config.ofKind .led).effectivePacing)

/-- A game with the recording its events go to. -/
structure FramedGame where
  game : Game
  log : Recording Turtle

namespace FramedGame

/-- A game on the standard board. -/
def ofSeed (seed : UInt64) : FramedGame :=
  ⟨.ofConfig { Config.ofKind .game with seed := seed }, .empty⟩

/-- Whether a run is in progress. -/
def isRunning (f : FramedGame) : Bool := f.game.simulator.isRunning

/-- Whether a play session is open. -/
def isPlaying (f : FramedGame) : Bool := f.game.isPlaying

/-- Starts a run of a text, and says whether it did. -/
def start (text : String) : StateM FramedGame Bool :=
  passOn game (fun f g => { f with game := g }) (Game.start text)

/-- The game with a run of a text, unless the request is dropped. -/
def run? (f : FramedGame) (text : String) : Option FramedGame := granted? (start text) f

/-- Advances and packs the frame. -/
def advance (f : FramedGame) : Frame Turtle × FramedGame :=
  let (step, game, log) := f.game.advance f.log
  let (frame, log) := log.frame step
  (frame, ⟨game, log⟩)

/-- Resets, advances once and packs the frame. -/
def reset (f : FramedGame) : Frame Turtle × FramedGame :=
  let (game, log) := f.game.reset f.log
  advance ⟨game, log⟩

/-- Opens a play session, advances once and packs the frame. -/
def play (f : FramedGame) : Frame Turtle × FramedGame :=
  let o := f.game.play f.log
  advance ⟨o.game, o.view⟩

end FramedGame

end StepScript
