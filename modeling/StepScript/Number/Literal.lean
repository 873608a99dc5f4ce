set_option autoImplicit false

/-!
# Numbers: decimal literals

A literal is an optional sign, digits with an optional fraction and an optional exponent:
`[+-]? (D+ ('.' D*)? | '.' D+) ([eE] [+-]? D+)?`.  `Literal.cut?` finds the literal that a text
starts with, `Literal.read?` reads a text that is one literal as a whole, and `Literal.value` rounds
it once to the nearest double.  `readFloat?` also knows the words for infinity and not a number.
-/

namespace StepScript

/-- ASCII decimal digit. -/
def isDigit (c : Char) : Bool := '0' ≤ c && c ≤ '9'

/-- Value of an ASCII decimal digit. -/
def digitValue (c : Char) : Nat := c.toNat - '0'.toNat

/-- Value of a run of decimal digits, the most significant first. -/
def digitsValue (cs : List Char) : Nat := cs.foldl (fun n c => 10 * n + digitValue c) 0

/-- Splits an optional sign off. -/
def splitSign : List Char → List Char × List Char
  | '+' :: rest => (['+'], rest)
  | '-' :: rest => (['-'], rest)
  | cs => ([], cs)

theorem splitSign_append (cs : List Char) : (splitSign cs).1 ++ (splitSign cs).2 = cs := by
  unfold splitSign
  split <;> rfl

/-- A decimal literal, split into its parts.  The fraction is absent without a point; the exponent
holds its sign and its digits. -/
structure Literal where
  sign : List Char
  whole : List Char
  fraction : Option (List Char)
  exponent : Option (Char × List Char × List Char)
  deriving DecidableEq, Repr

namespace Literal

/-- The text a literal was cut from. -/
def text (l : Literal) : List Char :=
  l.sign ++ l.whole ++
    (match l.fraction with
      | none => []
      | some digits => '.' :: digits) ++
    (match l.exponent with
      | none => []
      | some (mark, sign, digits) => mark :: (sign ++ digits))

/-- The fraction at the start of a text. -/
def cutFraction : List Char → Option (List Char) × List Char
  | '.' :: rest => (some (rest.takeWhile isDigit), rest.dropWhile isDigit)
  | cs => (none, cs)

/-- The exponent at the start of a text; one without digits is none. -/
def cutExponent : List Char → Option (Char × List Char × List Char) × List Char
  | [] => (none, [])
  | mark :: rest =>
      if mark = 'e' ∨ mark = 'E' then
        let (sign, tail) := splitSign rest
        let digits := tail.takeWhile isDigit
        if digits.isEmpty then (none, mark :: rest)
        else (some (mark, sign, digits), tail.dropWhile isDigit)
      else (none, mark :: rest)

/-- The literal a text starts with, as long as possible, and the rest of the text. -/
def cut? (cs : List Char) : Option (Literal × List Char) :=
  let (sign, cs) := splitSign cs
  let whole := cs.takeWhile isDigit
  let (fraction, cs) := cutFraction (cs.dropWhile isDigit)
  if whole.isEmpty && (fraction.getD []).isEmpty then none
  else
    let (exponent, cs) := cutExponent cs
    some (⟨sign, whole, fraction, exponent⟩, cs)

/-- The literal that a text is as a whole. -/
def read? (cs : List Char) : Option Literal :=
  match cut? cs with
  | some (l, []) => some l
  | _ => none

/-- The power of ten that the digits of a literal are multiplied by. -/
def powerOfTen (l : Literal) : Int :=
  (match l.exponent with
    | none => 0
    | some (_, sign, digits) =>
        if sign = ['-'] then -(digitsValue digits : Int) else digitsValue digits) -
    (l.fraction.getD []).length

/-- The magnitude of a literal, rounded once to the nearest double. -/
def magnitude (l : Literal) : Float :=
  let digits := digitsValue (l.whole ++ l.fraction.getD [])
  match l.powerOfTen with
  | .ofNat k => Float.ofScientific digits false k
  | .negSucc k => Float.ofScientific digits true (k + 1)

/-- The nearest double to a literal; a minus sign also marks zero. -/
def value (l : Literal) : Float :=
  if l.sign = ['-'] then -l.magnitude else l.magnitude

end Literal

/-- ASCII lower case. -/
def asciiLower (c : Char) : Char :=
  if 'A' ≤ c ∧ c ≤ 'Z' then Char.ofNat (c.toNat + 32) else c

/-- Reads a whole text as a double: a literal, or `inf`, `infinity`, `nan` in any case and with an
optional sign. -/
def readFloat? (cs : List Char) : Option Float :=
  match Literal.read? cs with
  | some l => some l.value
  | none =>
      let (sign, word) := splitSign cs
      let word := String.ofList (word.map asciiLower)
      if word = "nan" then some (0.0 / 0.0)
      else if word = "inf" || word = "infinity" then
        some (if sign = ['-'] then -1.0 / 0.0 else 1.0 / 0.0)
      else none

/-- Reads the longest literal that a text starts with as a double. -/
def floatPrefix? (cs : List Char) : Option Float :=
  (Literal.cut? cs).map fun l => l.1.value

end StepScript
