import StepScript.Board.Turtle
import StepScript.Panel.Basic
import StepScript.Run.Pacing
import StepScript.Text.Padding
set_option autoImplicit false

/-!
# Commands: checking a script

A check reads a script without running it and lists what every line that is not blank will do.
-/

namespace StepScript

/-- One line of a check: its index, its source, its command as listed, and whether the command is
known. -/
structure CheckEntry where
  line : Nat
  source : String
  decoded : String
  recognized : Bool
  deriving DecidableEq, Repr

/-- A check: an entry for every line that is not blank. -/
structure CheckReport where
  entries : List CheckEntry
  deriving DecidableEq, Repr

namespace CheckReport

/-- The entries of a script, given how a command is listed and whether it is known. -/
def entriesOf (W : Type) [World W] (text : World.Command W → String)
    (isRecognized : World.Command W → Bool) (s : Script) : List CheckEntry :=
  (s.lines.zipIdx.filter fun entry => !entry.1.isBlank).map fun (l, index) =>
    let command := World.decode (W := W) l
    ⟨index, l.source, text command, isRecognized command⟩

/-- Checks a script with the commands of a kind. -/
def build (kind : Kind) (s : Script) : CheckReport :=
  match kind with
  | .turtle | .game =>
      ⟨entriesOf Turtle TurtleCommand.text TurtleCommand.isRecognized s⟩
  | .led => ⟨entriesOf Panel PanelCommand.text PanelCommand.isRecognized s⟩

/-- Number of entries with an unknown command. -/
def unrecognizedCount (r : CheckReport) : Nat :=
  (r.entries.filter fun e => !e.recognized).length

end CheckReport

namespace CheckEntry

/-- One line of the listing. -/
def text (e : CheckEntry) : String :=
  (if e.recognized then " " else "?") ++ " " ++ padLeft 3 (toString (e.line + 1)) ++ " │ " ++
    padRight 24 e.source ++ " " ++ e.decoded

end CheckEntry

namespace CheckReport

/-- The last line of the listing. -/
def summary (r : CheckReport) : String :=
  let count := toString r.entries.length
  if r.unrecognizedCount = 0 then "✓ " ++ count ++ " lines, all recognized"
  else "? " ++ count ++ " lines, " ++ toString r.unrecognizedCount ++ " will do nothing"

/-- The listing, without a final line break. -/
def text (r : CheckReport) : String :=
  String.join (r.entries.map fun e => e.text ++ "\n") ++ r.summary

end CheckReport

end StepScript
