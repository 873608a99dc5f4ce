import StepScript.Board.Drawing
import StepScript.Panel.Basic
import StepScript.Run.Notice
import StepScript.Text.Padding
set_option autoImplicit false

/-!
# Views: the terminal

The terminal writes one paragraph for each event: the drawing of the world, the source of a line
that becomes active, a mark for a line that failed, the message of a notice.  Text goes to a sink;
what a closed sink cannot take is dropped, and the run goes on.
-/

namespace StepScript

/-- Worlds with a drawing. -/
class Drawn (W : Type) where
  draw : W → String

instance : Drawn Turtle := ⟨Turtle.draw⟩

instance : Drawn Panel := ⟨Panel.draw⟩

/-- Where text goes: to what was written so far, or nowhere. -/
inductive Sink where
  | written (text : String)
  | closed
  deriving DecidableEq, Repr

namespace Sink

/-- Writes a text and a line break. -/
def writeLine (s : Sink) (text : String) : Sink :=
  match s with
  | .written before => .written (before ++ text ++ "\n")
  | .closed => .closed

/-- All text written. -/
def text : Sink → String
  | .written text => text
  | .closed => ""

end Sink

/-- A terminal: its sink, the source of the script's lines, and whether worlds are drawn. -/
structure Terminal where
  sink : Sink
  lines : List String
  showsBoard : Bool
  deriving DecidableEq, Repr

namespace Terminal

/-- A terminal that knows no script. -/
def new (sink : Sink) : Terminal := ⟨sink, [], true⟩

/-- Keeps the source of a script, to show the active line. -/
def loadScript (t : Terminal) (s : Script) : Terminal := { t with lines := s.lines.map Line.source }

/-- Shows no drawing from now on. -/
def withoutBoard (t : Terminal) : Terminal := { t with showsBoard := false }

/-- The number of a line as shown, counted from one. -/
def lineNumber (line : Nat) : String := padLeft 3 (toString (line + 1))

/-- What the terminal writes for an event; nothing for a line that becomes inactive. -/
def paragraph? {W : Type} [Drawn W] (t : Terminal) : Event W → Option String
  | .render w => if t.showsBoard then some (Drawn.draw w) else none
  | .active line true => some ("▶ " ++ lineNumber line ++ " │ " ++ t.lines.getD line "")
  | .active _ false => none
  | .failed line => some ("✗ " ++ lineNumber line ++ " │ line failed")
  | .notice n => some ("! " ++ n.message)

instance {W : Type} [Drawn W] : View Terminal W where
  observe t e :=
    match t.paragraph? e with
    | none => t
    | some text => { t with sink := t.sink.writeLine text }

end Terminal

end StepScript
