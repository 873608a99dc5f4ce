import StepScript.Number.Rounding
set_option autoImplicit false

/-!
# Numbers: the shortest decimal that reads back

A finite double is written with the fewest decimal digits that still round to it, and of the
decimals with that many digits the nearest one.  The reals that round to `mantissa · 2 ^ exponent`
form an interval whose ends belong to it exactly when the mantissa is even.  For one digit, two
digits and so on, the two neighbours of the value on that decimal grid are tested against the
interval; the first grid with a hit wins.  Seventeen digits always suffice.
-/

namespace StepScript

/-- A decimal `digits · 10 ^ exponent`. -/
structure Decimal where
  digits : Nat
  exponent : Int
  deriving DecidableEq, Repr

namespace Decimal

/-- Number of decimal digits of a natural number; `0` has one. -/
def width (n : Nat) : Nat := (Nat.toDigits 10 n).length

/-- The exponent of the leading digit of `num / den`, that is the floor of its decimal logarithm. -/
def leadingExponent (num den : Nat) : Int :=
  if den ≤ num then (width (num / den) : Int) - 1 else -(width (den / num) : Int)

/-- `num / den` as a multiple of `10 ^ exponent`, again as a quotient. -/
def rescale (num den : Nat) : Int → Nat × Nat
  | .ofNat k => (num, den * Nat.pow 10 k)
  | .negSucc k => (num * Nat.pow 10 (k + 1), den)

/-- Drops trailing zero digits, at most `fuel` of them. -/
def trim : Nat → Decimal → Decimal
  | 0, d => d
  | fuel + 1, d =>
      if d.digits % 10 = 0 ∧ d.digits ≠ 0 then trim fuel ⟨d.digits / 10, d.exponent + 1⟩ else d

end Decimal

/-- The reals that round to one positive double, all over the divisor `den`. -/
structure RoundingInterval where
  low : Nat
  value : Nat
  high : Nat
  den : Nat
  closed : Bool
  deriving DecidableEq, Repr

namespace RoundingInterval

/-- The interval of `mantissa · 2 ^ exponent`.  Below a power of two the doubles lie twice as dense,
so the lower half of the interval is half as long there. -/
def ofParts (mantissa : Nat) (exponent : Int) : RoundingInterval :=
  let scale := Binary64.quotient 1 (exponent - 2)
  let below := if mantissa = Nat.pow 2 52 ∧ -1074 < exponent then 1 else 2
  { low := (4 * mantissa - below) * scale.1
    value := 4 * mantissa * scale.1
    high := (4 * mantissa + 2) * scale.1
    den := scale.2
    closed := mantissa % 2 == 0 }

/-- Whether `num / den` lies in the interval. -/
def contains (i : RoundingInterval) (num den : Nat) : Bool :=
  let low := i.low * den
  let high := i.high * den
  let x := num * i.den
  if i.closed then low ≤ x && x ≤ high else low < x && x < high

/-- The decimal with `count` digits nearest to the value among those in the interval. -/
def candidate? (tie : Tie) (i : RoundingInterval) (count : Nat) : Option Decimal :=
  let exponent := Decimal.leadingExponent i.value i.den - count + 1
  let q := Decimal.rescale i.value i.den exponent
  let near := roundDiv tie q.1 q.2
  let below := q.1 / q.2
  let far := if near = below then below + 1 else below
  let hit (digits : Nat) : Bool :=
    match exponent with
    | .ofNat k => i.contains (digits * Nat.pow 10 k) 1
    | .negSucc k => i.contains digits (Nat.pow 10 (k + 1))
  if hit near then some ⟨near, exponent⟩
  else if hit far then some ⟨far, exponent⟩
  else none

/-- The first hit with `count`, `count + 1`, … digits. -/
def search (tie : Tie) (i : RoundingInterval) : Nat → Nat → Option Decimal
  | 0, _ => none
  | fuel + 1, count =>
      match i.candidate? tie count with
      | some d => some d
      | none => i.search tie fuel (count + 1)

end RoundingInterval

/-- The shortest decimal that rounds to the positive double `mantissa · 2 ^ exponent`, without
trailing zeros. -/
def shortest (tie : Tie) (mantissa : Nat) (exponent : Int) : Decimal :=
  if mantissa = 0 then ⟨0, 0⟩
  else
    match (RoundingInterval.ofParts mantissa exponent).search tie 17 1 with
    | some d => d.trim 20
    | none => ⟨0, 0⟩

end StepScript
