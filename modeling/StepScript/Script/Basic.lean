import StepScript.Script.Line
set_option autoImplicit false

/-!
# Scripts: texts as lists of lines

Every piece of a text between line feeds is one line, blank ones included, so line numbers match the
source.  A text is never without lines.
-/

namespace StepScript

/-- The pieces of a text between line feeds. -/
def splitLines : List Char → List (List Char)
  | [] => [[]]
  | c :: cs =>
      if c = '\n' then [] :: splitLines cs
      else
        match splitLines cs with
        | [] => [[c]]
        | piece :: pieces => (c :: piece) :: pieces

theorem splitLines_ne_nil (cs : List Char) : splitLines cs ≠ [] := by
  cases cs with
  | nil => simp [splitLines]
  | cons c cs =>
      unfold splitLines
      split
      · simp
      · split <;> simp

/-- A script: its lines in source order. -/
structure Script where
  lines : List Line
  deriving DecidableEq, Repr, Inhabited

namespace Script

/-- Reads a script. -/
def parse (text : String) : Script := ⟨(splitLines text.toList).map Line.ofText⟩

/-- Number of lines. -/
def length (s : Script) : Nat := s.lines.length

/-- Whether there are no lines at all. -/
def isEmpty (s : Script) : Bool := s.lines.isEmpty

/-- Whether every line is blank. -/
def isBlank (s : Script) : Bool := s.lines.all Line.isBlank

/-- The line at an index. -/
def line? (s : Script) (index : Nat) : Option Line := s.lines[index]?

theorem isBlank_iff (s : Script) :
    s.isBlank = true ↔ ∀ l ∈ s.lines, l.isBlank = true := by
  simp [isBlank]

end Script

end StepScript
