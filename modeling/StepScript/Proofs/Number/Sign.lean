import StepScript.Number.Literal
set_option autoImplicit false

/-!
# Numbers: a minus sign in front

The literal that an unsigned text starts with is cut off at the same place when a minus sign is put in
front, wherever that is: after a fraction without a whole part, before an exponent without digits, or
before what is no part of a number.  So the number read is negated, and is read or not as before.

Main statements: `Literal.cut?_minus` and `floatPrefix?_minus`.
-/

namespace StepScript

theorem splitSign_of_unsigned {cs : List Char} (h : (splitSign cs).1 = []) :
    splitSign cs = ([], cs) := by
  have happend := splitSign_append cs
  rw [h, List.nil_append] at happend
  exact Prod.ext h happend

namespace Literal

/-- The sign of a literal is that of the text it is cut from. -/
theorem sign_of_cut? {cs rest : List Char} {l : Literal} (h : cut? cs = some (l, rest)) :
    l.sign = (splitSign cs).1 := by
  simp only [cut?] at h
  split at h
  · cases h
  · cases h
    rfl

/-- **A minus sign does not move the cut.** -/
theorem cut?_minus {cs : List Char} (hunsigned : (splitSign cs).1 = []) :
    cut? ('-' :: cs) = (cut? cs).map fun cut => ({ cut.1 with sign := ['-'] }, cut.2) := by
  have hminus : splitSign ('-' :: cs) = (['-'], cs) := rfl
  simp only [cut?, hminus, splitSign_of_unsigned hunsigned]
  split
  · rfl
  · rfl

/-- The sign has no part in the magnitude. -/
theorem value_minus {l : Literal} (hunsigned : l.sign = []) :
    value { l with sign := ['-'] } = -l.value := by
  have hmagnitude : magnitude { l with sign := ['-'] } = l.magnitude := rfl
  have hsign : l.sign ≠ ['-'] := by simp [hunsigned]
  rw [value, if_pos rfl, hmagnitude, value, if_neg hsign]

end Literal

/-- **A minus sign negates** the number that an unsigned text starts with. -/
theorem floatPrefix?_minus {cs : List Char} (hunsigned : (splitSign cs).1 = []) :
    floatPrefix? ('-' :: cs) = (floatPrefix? cs).map fun x => -x := by
  rw [floatPrefix?, Literal.cut?_minus hunsigned, floatPrefix?]
  cases hcut : Literal.cut? cs with
  | none => rfl
  | some cut =>
      have hsign := (Literal.sign_of_cut? hcut).trans hunsigned
      exact congrArg some (Literal.value_minus hsign)

end StepScript
