import StepScript.Number.Literal
set_option autoImplicit false

/-!
# Scripts: integer operands

An integer operand is read from the longest prefix of its token.  After an optional sign a `0x` mark
switches to hexadecimal digits, and then at least one must follow; otherwise the digits are decimal.
Only integers of 64 bits are read.
-/

namespace StepScript

/-- ASCII hexadecimal digit. -/
def isHexDigit (c : Char) : Bool :=
  isDigit c || ('a' ≤ c && c ≤ 'f') || ('A' ≤ c && c ≤ 'F')

/-- Value of an ASCII hexadecimal digit. -/
def hexDigitValue (c : Char) : Nat :=
  if isDigit c then digitValue c
  else if 'a' ≤ c then c.toNat - 'a'.toNat + 10
  else c.toNat - 'A'.toNat + 10

/-- Value of a run of hexadecimal digits, the most significant first. -/
def hexDigitsValue (cs : List Char) : Nat := cs.foldl (fun n c => 16 * n + hexDigitValue c) 0

/-- The rest of a text after a hexadecimal mark. -/
def afterHexMark? : List Char → Option (List Char)
  | '0' :: 'x' :: rest => some rest
  | '0' :: 'X' :: rest => some rest
  | _ => none

/-- The integer that a token starts with.  A hexadecimal magnitude has 63 bits, whatever its sign; a
decimal integer has the full range of 64 bits with a sign. -/
def integerPrefix? (token : List Char) : Option Int :=
  let (sign, rest) := splitSign token
  let signed (magnitude : Nat) : Int := if sign = ['-'] then -(magnitude : Int) else magnitude
  match afterHexMark? rest with
  | some tail =>
      let digits := tail.takeWhile isHexDigit
      let magnitude := hexDigitsValue digits
      if digits.isEmpty || Nat.pow 2 63 ≤ magnitude then none else some (signed magnitude)
  | none =>
      let digits := rest.takeWhile isDigit
      let value := signed (digitsValue digits)
      if digits.isEmpty || value < Int64.minValue.toInt || Int64.maxValue.toInt < value then none
      else some value

end StepScript
