import StepScript.Number.Binary64
set_option autoImplicit false

/-!
# Numbers: rounding quotients and doubles to integers

`roundDiv` rounds a quotient of natural numbers to the nearest natural number, with the rule for a
tie as a parameter: fixed decimal places and nanoseconds send a tie to the even neighbour, the board
sends a coordinate halfway between two cells away from zero.
-/

namespace StepScript

/-- Where a value exactly halfway between two neighbours goes. -/
inductive Tie where
  | toEven
  | away
  deriving DecidableEq, Repr

namespace Tie

/-- Whether a tie above `below` goes up. -/
def goesUp (tie : Tie) (below : Nat) : Bool :=
  match tie with
  | .toEven => below % 2 == 1
  | .away => true

end Tie

/-- The natural number nearest to `num / den`. -/
def roundDiv (tie : Tie) (num den : Nat) : Nat :=
  let below := num / den
  let twice := 2 * (num % den)
  if twice < den then below
  else if den < twice then below + 1
  else if tie.goesUp below then below + 1
  else below

theorem roundDiv_of_lt {tie : Tie} {num den : Nat} (h : 2 * (num % den) < den) :
    roundDiv tie num den = num / den := by
  simp [roundDiv, h]

theorem roundDiv_of_gt {tie : Tie} {num den : Nat} (h : den < 2 * (num % den)) :
    roundDiv tie num den = num / den + 1 := by
  simp [roundDiv, h, Nat.lt_asymm h]

theorem roundDiv_of_tie {tie : Tie} {num den : Nat} (h : 2 * (num % den) = den) :
    roundDiv tie num den = if tie.goesUp (num / den) then num / den + 1 else num / den := by
  simp [roundDiv, h]

/-- The integer nearest to a finite double, a tie going away from zero; nothing for the others. -/
def nearestInt? (x : Float) : Option Int :=
  match Binary64.ofFloat x with
  | .finite negative mantissa exponent =>
      let q := Binary64.quotient mantissa exponent
      let magnitude : Int := roundDiv .away q.1 q.2
      some (if negative then -magnitude else magnitude)
  | _ => none

end StepScript
