import StepScript.Script.Operand
set_option autoImplicit false

/-!
# Scripts: operands read in place

A token is held as bytes.  Where its number ends is found on the bytes, the token is cut there, and
what was cut off is parsed; an integer is kept in a word of 64 bits, digit by digit.  This module
reads a token so, and tells each step that has no result from a token without a number: a cut that
is not at the end of a character, and a negation that no word holds.  `floatPrefix?` and
`integerPrefix?`, on characters and on integers of any size, know no such steps.
-/

namespace StepScript

namespace InPlace

/-- A step without a result. -/
inductive Fault where
  /-- A cut inside a character, or past the end of the text. -/
  | cut
  /-- An integer that no word holds. -/
  | overflow
  deriving DecidableEq, Repr

/-! ## Bytes -/

/-- The bytes of a text, each as the character with its number.  A byte is compared with an ASCII
character as that character is. -/
def bytes (text : String) : List Char :=
  text.toByteArray.data.toList.map fun byte => Char.ofNat byte.toNat

/-- Cuts a text in two after a number of bytes. -/
def cutAt (text : String) (size : Nat) : Except Fault (String × String) :=
  match text.pos? ⟨size⟩ with
  | some p => .ok ((text.sliceTo p).copy, (text.sliceFrom p).copy)
  | none => .error .cut

/-! ## Words -/

/-- The word that holds an integer. -/
def word? (v : Int) : Option Int64 :=
  if Int64.minValue.toInt ≤ v ∧ v ≤ Int64.maxValue.toInt then some (Int64.ofInt v) else none

/-- The value of a digit in a radix, which is sixteen at most. -/
def digit? (radix : Nat) (c : Char) : Option Nat :=
  if isHexDigit c && hexDigitValue c < radix then some (hexDigitValue c) else none

/-- Shifts one more digit into a word: the product with the radix, and then the sum or, downwards,
the difference; nothing if either is no word. -/
def shiftIn? (radix : Nat) (down : Bool) (word : Int64) (c : Char) : Option Int64 := do
  let digit ← digit? radix c
  let product ← word? (word.toInt * radix)
  word? (if down then product.toInt - digit else product.toInt + digit)

/-- Parses a text as one integer: a sign or none, and digits.  Behind a minus sign they count
downwards from zero. -/
def parse? (radix : Nat) (text : String) : Option Int64 :=
  let (sign, digits) := splitSign text.toList
  if digits.isEmpty then none else digits.foldlM (shiftIn? radix (sign = ['-'])) 0

/-- Changes the sign of a word. -/
def negate (word : Int64) : Except Fault Int64 :=
  match word? (-word.toInt) with
  | some negated => .ok negated
  | none => .error .overflow

/-- A parsed magnitude with its sign. -/
def applySign (negative : Bool) (magnitude : Int64) : Except Fault Int64 :=
  if negative then negate magnitude else .ok magnitude

/-! ## Operands -/

/-- Cuts off the decimal literal that a token starts with and parses it. -/
def number {α : Type} (parse : String → Option α) (token : String) : Except Fault (Option α) :=
  match Literal.cut? (bytes token) with
  | some (l, _) => (cutAt token l.text.length).map fun parts => parse parts.1
  | none => .ok none

/-- Cuts off the integer that a token starts with and parses it.  Behind a hexadecimal mark the
digits are parsed without the sign, which is applied afterwards; decimal digits are parsed with it. -/
def integer (token : String) : Except Fault (Option Int64) := do
  let (sign, rest) := splitSign (bytes token)
  match afterHexMark? rest with
  | some _ =>
      let (_, unmarked) ← cutAt token (sign.length + 2)
      let (digits, _) ← cutAt unmarked ((bytes unmarked).takeWhile isHexDigit).length
      match parse? 16 digits with
      | none => return none
      | some magnitude => return some (← applySign (sign = ['-']) magnitude)
  | none =>
      let digits := rest.takeWhile isDigit
      if digits.isEmpty then return none
      else
        let (literal, _) ← cutAt token (sign.length + digits.length)
        return parse? 10 literal

end InPlace

end StepScript
