set_option autoImplicit false

/-!
# Text: padding

Columns of a listing are as wide as a number of characters; a longer text is left whole.
-/

namespace StepScript

/-- Spaces that a text lacks to be `width` characters long. -/
def fill (width : Nat) (text : String) : String :=
  String.ofList (List.replicate (width - text.length) ' ')

/-- Pads on the left. -/
def padLeft (width : Nat) (text : String) : String := fill width text ++ text

/-- Pads on the right. -/
def padRight (width : Nat) (text : String) : String := text ++ fill width text

end StepScript
