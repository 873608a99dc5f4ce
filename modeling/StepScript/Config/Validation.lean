import StepScript.Config.Basic
import StepScript.Json.Basic
set_option autoImplicit false

/-!
# Configuration: validation

A configuration is checked in two passes.  The first one checks every field of the fixed sections on
its own, the second one the pacing section and then the rules that span several fields.  A field is
refused exactly when it compares below its least or above its greatest value, so what is not a
number passes these checks.
-/

namespace StepScript

/-- What a field has to keep. -/
inductive Rule where
  /-- A text is at least so long. -/
  | length
  /-- A number lies within bounds. -/
  | range
  deriving DecidableEq, Repr

namespace Rule

/-- Name of a rule. -/
def code : Rule → String
  | .length => "length"
  | .range => "range"

end Rule

/-- A field that does not keep its rule, with the bounds and the value it has. -/
structure Violation where
  field : String
  rule : Rule
  least : Option Json
  greatest : Option Json
  value : Json
  deriving Repr

namespace Violation

/-- The bounds and the value by name. -/
def parameters (v : Violation) : List (String × Json) :=
  (match v.greatest with
    | none => []
    | some bound => [("max", bound)]) ++
  (match v.least with
    | none => []
    | some bound => [("min", bound)]) ++ [("value", v.value)]

end Violation

/-- Checks a natural number against its bounds. -/
def checkNat (field : String) (least greatest : Option Nat) (value : Nat) : List Violation :=
  if least.any (fun bound => value < bound) || greatest.any (fun bound => bound < value) then
    [⟨field, .range, least.map Json.nat, greatest.map Json.nat, .nat value⟩]
  else []

/-- Checks a double against its bounds. -/
def checkFloat (field : String) (least greatest : Option Float) (value : Float) : List Violation :=
  if least.any (fun bound => value < bound) || greatest.any (fun bound => bound < value) then
    [⟨field, .range, least.map Json.float, greatest.map Json.float, .float value⟩]
  else []

/-- Checks the length of a text. -/
def checkLength (field : String) (least : Nat) (value : String) : List Violation :=
  if value.length < least then [⟨field, .length, some (.nat least), none, .text value⟩] else []

/-- Why a configuration is not accepted. -/
inductive ConfigFault where
  | violations (vs : List Violation)
  /-- The win radius is larger than the board. -/
  | winRadius (radius : Float) (gridSize : UInt32)
  deriving Repr

/-- Longest pause of a pacing section, in milliseconds. -/
def longestPause : Nat := 60000

namespace Pacing

/-- The fields of a pacing section that are out of range. -/
def violations (p : Pacing) : List Violation :=
  checkNat "settle_ms" none (some longestPause) p.settle.toNat ++
  checkNat "blank_ms" none (some longestPause) p.blank.toNat ++
  checkNat "idle_ms" none (some longestPause) p.idle.toNat ++
  checkNat "effect_ms" none (some longestPause) p.effect.toNat ++
  checkNat "error_ms" none (some longestPause) p.error.toNat ++
  checkNat "tail_ms" none (some longestPause) p.tail.toNat

end Pacing

namespace Config

/-- The fields outside the pacing section that break a rule. -/
def violations (c : Config) : List Violation :=
  checkLength "schema_version" 1 c.schemaVersion ++
  checkNat "board.grid_size" (some 2) (some 64) c.board.gridSize.toNat ++
  checkFloat "board.epsilon" (some 0.0) (some 0.5) c.board.epsilon ++
  checkFloat "game.win_radius" (some 0.0) none c.game.winRadius

/-- First pass: every field on its own. -/
def checkFields (c : Config) : Except ConfigFault Unit :=
  if c.violations.isEmpty then .ok () else .error (.violations c.violations)

/-- Second pass: the pacing section, then the win radius against the board. -/
def checkRules (c : Config) : Except ConfigFault Unit :=
  let pacing := (c.pacing.map Pacing.violations).getD []
  if !pacing.isEmpty then .error (.violations pacing)
  else if c.board.gridSize.toFloat < c.game.winRadius then
    .error (.winRadius c.game.winRadius c.board.gridSize)
  else .ok ()

/-- Both passes. -/
def check (c : Config) : Except ConfigFault Unit :=
  match c.checkFields with
  | .error e => .error e
  | .ok () => c.checkRules

end Config

end StepScript
