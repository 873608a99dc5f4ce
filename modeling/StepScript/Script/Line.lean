import StepScript.Script.Operand
import StepScript.Text.UpperCase
import StepScript.Text.WhiteSpace
set_option autoImplicit false

/-!
# Scripts: lines

A line keeps its trimmed source for display and the words of its upper case as tokens.  The first
token is the command name, the others are operands.  Operands are read leniently, from the longest
prefix that is a number; whoever reads one chooses what a missing number means.
-/

namespace StepScript

/-- One line of a script. -/
structure Line where
  /-- Trimmed source text, its case kept. -/
  source : String
  /-- Words of the upper-case source. -/
  tokens : List String
  deriving DecidableEq, Repr, Inhabited

namespace Line

/-- Reads one line. -/
def ofText (raw : List Char) : Line :=
  let source := trim raw
  { source := String.ofList source
    tokens := (words (upperCase source)).map String.ofList }

/-- Whether the line holds no tokens. -/
def isBlank (l : Line) : Bool := l.tokens.isEmpty

theorem isBlank_iff (l : Line) : l.isBlank = true ↔ l.tokens = [] := by
  simp [isBlank]

/-- Command name. -/
def command? (l : Line) : Option String := l.tokens.head?

/-- Operand token; operand 1 is the first one after the command name. -/
def operand? (l : Line) (index : Nat) : Option String := l.tokens[index]?

/-- Numeric operand, absent when missing or unreadable. -/
def float? (l : Line) (index : Nat) : Option Float :=
  (l.operand? index).bind fun token => floatPrefix? token.toList

/-- Numeric operand, zero when missing or unreadable. -/
def number (l : Line) (index : Nat) : Float := (l.float? index).getD 0.0

/-- Integer operand, absent when missing or unreadable. -/
def integer? (l : Line) (index : Nat) : Option Int :=
  (l.operand? index).bind fun token => integerPrefix? token.toList

end Line

end StepScript
