import StepScript.Board.Square
import StepScript.Run.World
import StepScript.Number.Layout
set_option autoImplicit false

/-!
# Board: the turtle

The turtle walks and turns on a square board.  A move is checked as a whole before it is made.
While a play session is open the board has a target; a run that ends on it, nearer than the win
radius, wins the session, and any other run without an error loses it.
-/

namespace StepScript

/-- An instruction for the turtle. -/
inductive TurtleCommand where
  | forward (distance : Float)
  | back (distance : Float)
  | right (degrees : Float)
  | left (degrees : Float)
  | noop
  deriving DecidableEq, Repr

namespace TurtleCommand

/-- Reads a line; a missing or unreadable operand is zero. -/
def ofLine (l : Line) : TurtleCommand :=
  let value := l.number 1
  match l.command? with
  | none => .noop
  | some name =>
      if name = "ANDA" then .forward value
      else if name = "TRAS" || name = "TRÁS" then .back value
      else if name = "DIREITA" then .right value
      else if name = "ESQUERDA" then .left value
      else .noop

/-- A command in a listing. -/
def text : TurtleCommand → String
  | .forward d => "Forward(" ++ Layout.listing.write d ++ ")"
  | .back d => "Back(" ++ Layout.listing.write d ++ ")"
  | .right d => "Right(" ++ Layout.listing.write d ++ ")"
  | .left d => "Left(" ++ Layout.listing.write d ++ ")"
  | .noop => "Noop"

/-- Whether the turtle knows a command. -/
def isRecognized : TurtleCommand → Bool
  | .noop => false
  | _ => true

end TurtleCommand

/-- The turtle, its board and the target of an open play session. -/
structure Turtle where
  pose : Pose
  guard : Guard
  target : Option Square
  winRadius : Float
  deriving DecidableEq, Repr

namespace Turtle

/-- A turtle at home, without a target. -/
def new (guard : Guard) (winRadius : Float) : Turtle := ⟨.home, guard, none, winRadius⟩

/-- Whether a play session is open. -/
def isPlaying (t : Turtle) : Bool := t.target.isSome

/-- The same turtle with another target, or none. -/
def setTarget (t : Turtle) (target : Option Square) : Turtle := { t with target := target }

/-- The position that a move asks for. -/
def candidate (t : Turtle) (distance : Float) : Float × Float :=
  let d := t.pose.displacement distance
  (t.pose.x + d.1, t.pose.y + d.2)

/-- Moves along the heading, if the board has the position asked for. -/
def move (t : Turtle) (distance : Float) : Except InvalidMove Turtle :=
  let (x, y) := t.candidate distance
  match t.guard.check x y with
  | .error e => .error e
  | .ok () => .ok { t with pose := { t.pose with x := x, y := y } }

/-- Turns clockwise; negative degrees turn the other way. -/
def rotate (t : Turtle) (degrees : Float) : Turtle :=
  { t with pose := { t.pose with heading := t.pose.heading + degrees } }

/-- Takes the turtle home; the target stays. -/
def goHome (t : Turtle) : Turtle := { t with pose := .home }

/-- Takes the turtle home and ends the play session. -/
def reset (t : Turtle) : Turtle := t.goHome.setTarget none

/-- Judges the pose against the target, if there is one. -/
def verdict? (t : Turtle) : Option Verdict :=
  t.target.map fun target =>
    if t.pose.distanceTo target < t.winRadius then .win else .lose

/-- Applies a command. -/
def apply (t : Turtle) : TurtleCommand → Except InvalidMove (Turtle × Effect)
  | .forward d => (t.move d).map fun t => (t, .changed)
  | .back d => (t.move (-d)).map fun t => (t, .changed)
  | .right d => .ok (t.rotate d, .changed)
  | .left d => .ok (t.rotate (-d), .changed)
  | .noop => .ok (t, .idle)

/-- Judges an open play session and ends it, with the turtle back home. -/
def conclude? (t : Turtle) : Option (Verdict × Turtle) :=
  t.verdict?.map fun verdict => (verdict, t.reset)

/-! ## In place -/

/-- Moves along the heading; the board is asked before either coordinate is written. -/
def walk (distance : Float) : EStateM InvalidMove Turtle Unit := do
  let t ← get
  let (x, y) := t.candidate distance
  MonadExcept.ofExcept (t.guard.check x y)
  modify fun t => { t with pose := { t.pose with x := x } }
  modify fun t => { t with pose := { t.pose with y := y } }

/-- Applies a command in place. -/
def act : TurtleCommand → EStateM InvalidMove Turtle Effect
  | .forward d => do
      walk d
      return .changed
  | .back d => do
      walk (-d)
      return .changed
  | .right d => do
      modify fun t => t.rotate d
      return .changed
  | .left d => do
      modify fun t => t.rotate (-d)
      return .changed
  | .noop => return .idle

/-- Judges an open play session in place, then ends it and takes the turtle home. -/
def close : StateM Turtle (Option Verdict) := do
  match (← get).verdict? with
  | none => return none
  | some verdict =>
      modify fun t => t.setTarget none
      modify goHome
      return some verdict

/-- A walk is a move; a walk that the board refuses leaves both coordinates as they were. -/
theorem walk_eq (distance : Float) (t : Turtle) :
    walk distance t =
      match t.move distance with
      | .ok t' => .ok () t'
      | .error e => .error e t := by
  rw [walk, get_bind_apply_of_except, move]
  obtain ⟨x, y⟩ := t.candidate distance
  refine (ofExcept_bind_apply (t.guard.check x y) _ t).trans ?_
  dsimp only
  cases t.guard.check x y <;> rfl

/-- A command in place is the command applied, and one that fails leaves the turtle as it was. -/
theorem act_eq (c : TurtleCommand) (t : Turtle) :
    act c t =
      match t.apply c with
      | .ok (t', effect) => .ok effect t'
      | .error e => .error e t := by
  cases c with
  | forward d =>
      simp only [act, apply, bind, EStateM.bind, walk_eq]
      cases t.move d <;> rfl
  | back d =>
      simp only [act, apply, bind, EStateM.bind, walk_eq]
      cases t.move (-d) <;> rfl
  | right d => rfl
  | left d => rfl
  | noop => rfl

/-- A judgement in place is the judgement; without one the turtle stays as it is. -/
theorem close_eq (t : Turtle) :
    close t = (t.verdict?, if t.verdict?.isSome then t.reset else t) := by
  rw [close, get_bind_apply]
  cases t.verdict? <;> rfl

instance : World Turtle where
  Command := TurtleCommand
  decode := TurtleCommand.ofLine
  act := act
  reset := Turtle.reset
  prepare _ := do
    modify goHome
    return true
  close := close
  act_error c t e t' h := by
    rw [act_eq] at h
    cases happly : t.apply c with
    | ok left =>
        rw [happly] at h
        cases h
    | error refused =>
        rw [happly] at h
        cases h
        rfl
  prepare_refused _ t t' h := by cases h
  close_unjudged t t' h := by
    rw [close_eq] at h
    obtain ⟨hnone, rfl⟩ := Prod.mk.inj h
    rw [hnone]
    rfl

/-- A turtle as a world applies commands as the turtle does. -/
@[simp] theorem world_apply (t : Turtle) (c : TurtleCommand) : World.apply t c = t.apply c := by
  simp only [World.apply, World.act, act_eq]
  cases t.apply c <;> rfl

theorem world_apply_decode (t : Turtle) (l : Line) :
    World.apply t (World.decode l) = t.apply (TurtleCommand.ofLine l) := t.world_apply _

@[simp] theorem world_conclude? (t : Turtle) : World.conclude? t = t.conclude? := by
  simp only [World.conclude?, World.close, close_eq, conclude?]
  cases t.verdict? <;> rfl

end Turtle

end StepScript
