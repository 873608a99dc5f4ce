set_option autoImplicit false

/-!
# Numbers: what a double stands for

A coordinate, a heading or a delay in seconds is a `Float`.  Printing one, rounding one to a board
cell and turning one into nanoseconds all need its exact value, so this module fixes one reading of
a double: not a number, an infinity, or `± mantissa · 2 ^ exponent` over the integers.  The way back
rounds to the nearest double, ties to the even mantissa.
-/

namespace StepScript

/-- What a double stands for: not a number, an infinity, or `± mantissa · 2 ^ exponent`.
Zero has mantissa `0` and keeps its sign. -/
inductive Binary64 where
  | nan
  | infinite (negative : Bool)
  | finite (negative : Bool) (mantissa : Nat) (exponent : Int)
  deriving DecidableEq, Repr

namespace Binary64

/-- The sign of the floating-point model, as "is negative". -/
def isNegativeSign : Float.Model.UnpackedFloat.Sign → Bool
  | .negative => true
  | .positive => false

/-- The sign of the floating-point model that `negative` names. -/
def signOf (negative : Bool) : Float.Model.UnpackedFloat.Sign :=
  if negative then .negative else .positive

/-- Reads a double. -/
def ofFloat (x : Float) : Binary64 :=
  match x.toModel.unpack with
  | .notANumber => .nan
  | .infinity sign => .infinite (isNegativeSign sign)
  | .zero sign => .finite (isNegativeSign sign) 0 0
  | .finite sign mantissa exponent _ => .finite (isNegativeSign sign) mantissa exponent

/-- The double nearest to a value, ties to the even mantissa; a magnitude past the largest double
becomes an infinity. -/
def toFloat : Binary64 → Float
  | .nan => .ofModel (.pack .notANumber)
  | .infinite negative => .ofModel (.pack (.infinity (signOf negative)))
  | .finite negative mantissa exponent =>
      .ofModel (.pack (.round .binary64 (signOf negative) mantissa exponent))

/-- The magnitude of a finite value as a quotient of natural numbers with a positive divisor. -/
def quotient (mantissa : Nat) : Int → Nat × Nat
  | .ofNat k => (mantissa <<< k, 1)
  | .negSucc k => (mantissa, 1 <<< (k + 1))

theorem quotient_snd_pos (mantissa : Nat) (exponent : Int) :
    0 < (quotient mantissa exponent).2 := by
  cases exponent with
  | ofNat k => exact Nat.one_pos
  | negSucc k =>
      rw [quotient, Nat.one_shiftLeft]
      exact Nat.two_pow_pos (k + 1)

end Binary64

end StepScript
