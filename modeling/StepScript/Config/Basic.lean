import StepScript.Run.Pacing
import StepScript.Text.Padding
import StepScript.Number.Layout
import StepScript.Number.Literal
set_option autoImplicit false

/-!
# Configuration: sections and defaults

Every setting has a default, so an empty configuration is complete.  Without a pacing section the
pacing of the kind applies.
-/

namespace StepScript

/-- Board geometry. -/
structure BoardSection where
  /-- Cells on a side. -/
  gridSize : UInt32
  /-- Tolerance of the guard. -/
  epsilon : Float
  deriving DecidableEq, Repr

namespace BoardSection

/-- Eight cells on a side and a tolerance of a thousandth. -/
def standard : BoardSection := ⟨8, 0.001⟩

instance : Inhabited BoardSection := ⟨standard⟩

end BoardSection

/-- Rules of the game. -/
structure GameSection where
  /-- Distance below which the turtle has reached the apple. -/
  winRadius : Float
  deriving DecidableEq, Repr

namespace GameSection

/-- Half a cell. -/
def standard : GameSection := ⟨0.5⟩

instance : Inhabited GameSection := ⟨standard⟩

end GameSection

/-- Everything that can be set about a simulator. -/
structure Config where
  schemaVersion : String
  kind : Kind
  /-- Seed of the apple's placement. -/
  seed : UInt64
  board : BoardSection
  game : GameSection
  /-- Pacing in place of the kind's own. -/
  pacing : Option Pacing
  deriving DecidableEq, Repr

namespace Config

/-- All defaults. -/
def standard : Config := ⟨"1.0", .turtle, 42, .standard, .standard, none⟩

instance : Inhabited Config := ⟨standard⟩

/-- All defaults but the kind. -/
def ofKind (kind : Kind) : Config := { standard with kind := kind }

/-- Pacing in effect. -/
def effectivePacing (c : Config) : Pacing := c.pacing.getD (.ofKind c.kind)

/-- The summary of a configuration, without a final line break. -/
def summary (c : Config) : String :=
  let size := toString c.board.gridSize.toNat
  let p := c.effectivePacing
  "Simulator: " ++ c.kind.name ++ "\n" ++
  "Board:     " ++ size ++ "×" ++ size ++ " (ε = " ++ Layout.plain.write c.board.epsilon ++ ")\n" ++
  "Seed:      " ++ toString c.seed.toNat ++ "\n" ++
  "Pacing:    settle " ++ toString p.settle.toNat ++ "ms, blank " ++ toString p.blank.toNat ++
    "ms, idle " ++ toString p.idle.toNat ++ "ms, effect " ++ toString p.effect.toNat ++
    "ms, error " ++ toString p.error.toNat ++ "ms, tail " ++ toString p.tail.toNat ++ "ms"

end Config

/-- The kind that a name on the command line stands for, in any case. -/
def Kind.ofName? (name : String) : Option Kind :=
  let name := String.ofList (name.toList.map asciiLower)
  if name = "turtle" || name = "tartaruga" then some .turtle
  else if name = "game" || name = "jogo" then some .game
  else if name = "led" || name = "leds" then some .led
  else none

end StepScript
