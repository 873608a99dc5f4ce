import StepScript.Text.CaseTable
set_option autoImplicit false

/-!
# Text: upper case

Command names are compared in upper case.  `upperChar` is the full mapping of one character, which
may give several characters, and `upperCase` maps a text character by character.
-/

namespace StepScript

/-- The upper case of one character. -/
def upperChar (c : Char) : List Char :=
  let code := c.toNat
  if code < 0x80 then
    [if 'a' ≤ c ∧ c ≤ 'z' then Char.ofNat (code - 32) else c]
  else
    match upperSequences.find? (fun entry => entry.1 == code) with
    | some entry => entry.2.map Char.ofNat
    | none =>
        match upperRuns.find? (fun run => run.contains code) with
        | some run => [Char.ofNat (code + run.shift).toNat]
        | none => [c]

/-- The upper case of a text. -/
def upperCase (cs : List Char) : List Char := cs.flatMap upperChar

@[simp] theorem upperCase_nil : upperCase [] = [] := rfl

@[simp] theorem upperCase_cons (c : Char) (cs : List Char) :
    upperCase (c :: cs) = upperChar c ++ upperCase cs := rfl

theorem upperCase_append (a b : List Char) :
    upperCase (a ++ b) = upperCase a ++ upperCase b := by
  simp [upperCase]

end StepScript
