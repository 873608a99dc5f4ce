import StepScript.Board.Square
import StepScript.Board.Guard
import StepScript.Run.Outcome
set_option autoImplicit false

/-!
# Runs: notices and events

A notice is a message for the learner.  An event is one thing that a run shows: the world, a line
that becomes active or inactive, a line that failed, or a notice.
-/

namespace StepScript

/-- A message for the learner. -/
inductive Notice where
  /-- The line with this index asked for a position off the board. -/
  | invalidMove (line : Nat) (x y : Float)
  | won
  | lost
  /-- A play session started with the apple on a cell. -/
  | gameStarted (target : Square)
  deriving DecidableEq, Repr

namespace Notice

/-- The notice for a line that failed. -/
def ofInvalidMove (line : Nat) (e : InvalidMove) : Notice := .invalidMove line e.x e.y

/-- The notice for a verdict. -/
def ofVerdict : Verdict → Notice
  | .win => .won
  | .lose => .lost

/-- Text shown to the learner. -/
def message : Notice → String
  | .invalidMove .. => "Movimento Inválido: A tartaruga sairia do tabuleiro!"
  | .won => "Você venceu"
  | .lost => "Você perdeu"
  | .gameStarted _ => "MODO JOGO INICIADO!\nObjetivo: Leve a tartaruga até a maçã."

end Notice

/-- One thing that a run shows.  Lines are counted from zero. -/
inductive Event (W : Type) where
  | render (world : W)
  | active (line : Nat) (on : Bool)
  | failed (line : Nat)
  | notice (n : Notice)
  deriving DecidableEq, Repr

/-- Whatever looks at a run: it takes in one event after the other. -/
class View (V : Type) (W : Type) where
  observe : V → Event W → V

/-- A view that looks at nothing. -/
structure NoView where
  deriving DecidableEq, Repr

instance (W : Type) : View NoView W := ⟨fun v _ => v⟩

namespace View

/-- A view after several events. -/
def replay {V W : Type} [View V W] (v : V) (events : List (Event W)) : V :=
  events.foldl observe v

@[simp] theorem replay_nil {V W : Type} [View V W] (v : V) :
    replay (W := W) v [] = v := rfl

@[simp] theorem replay_cons {V W : Type} [View V W] (v : V) (e : Event W) (es : List (Event W)) :
    replay v (e :: es) = replay (observe v e) es := rfl

theorem replay_append {V W : Type} [View V W] (v : V) (a b : List (Event W)) :
    replay v (a ++ b) = replay (replay v a) b := by
  simp [replay]

end View

end StepScript
