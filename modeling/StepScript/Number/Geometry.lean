import StepScript.Number.Binary64
set_option autoImplicit false

/-!
# Numbers: angles and lengths

Angles are degrees.  `cosine` and `sine` take radians and fix the value at zero, `foldAngle` brings
a heading into one turn exactly, and `hypotenuse` is a square root followed by one correction step
that removes the rounding errors of the squares.
-/

namespace StepScript

/-- Radians in one degree. -/
def radiansPerDegree : Float := 3.141592653589793 / 180.0

/-- Degrees as radians. -/
def radians (degrees : Float) : Float := degrees * radiansPerDegree

/-- Cosine of an angle in radians; exactly one at zero. -/
def cosine (x : Float) : Float := if x == 0.0 then 1.0 else Float.cos x

/-- Sine of an angle in radians; zero, sign included, at zero. -/
def sine (x : Float) : Float := if x == 0.0 then x else Float.sin x

theorem cosine_of_zero {x : Float} (h : (x == 0.0) = true) : cosine x = 1.0 := by
  simp [cosine, h]

theorem sine_of_zero {x : Float} (h : (x == 0.0) = true) : sine x = x := by
  simp [sine, h]

/-- The remainder of a double by a positive whole number, exact and with the sign of the double; not
a number for what is not finite. -/
def remainder (x : Float) (modulus : Nat) : Float :=
  match Binary64.ofFloat x with
  | .finite negative mantissa exponent =>
      Binary64.toFloat <|
        match exponent with
        | .ofNat k => .finite negative (mantissa <<< k % modulus) 0
        | .negSucc k => .finite negative (mantissa % (modulus <<< (k + 1))) (.negSucc k)
  | _ => Binary64.toFloat .nan

/-- Degrees folded into one turn from zero on. -/
def foldAngle (degrees : Float) : Float :=
  let r := remainder degrees 360
  if r < 0.0 then r + 360.0 else r

/-- Length of the hypotenuse over `long` and `short`, with `0 ≤ short ≤ long`.  The square root of
the rounded sum of squares is corrected by the residual `root² - long² - short²`, expanded so that
no term cancels. -/
def correctedRoot (long short : Float) : Float :=
  let root := Float.sqrt (long * long + short * short)
  if root ≤ 2.0 * short then
    let delta := root - short
    let first := long * (2.0 * delta - long)
    let second := (delta - 2.0 * (long - short)) * delta
    root - (first + second) / (2.0 * root)
  else
    let delta := root - long
    let first := 2.0 * delta * (long - 2.0 * short)
    let second := (4.0 * delta - short) * short + delta * delta
    root - (first + second) / (2.0 * root)

/-- `2 ^ exponent` as a double. -/
def powerOfTwo (exponent : Int) : Float := Binary64.toFloat (.finite false 1 exponent)

/-- Length of the hypotenuse of a right triangle.  An infinite side makes it infinite; a side too
small to matter is added; sides whose squares leave the range of doubles are scaled first. -/
def hypotenuse (x y : Float) : Float :=
  if x.isInf || y.isInf then Binary64.toFloat (.infinite false)
  else if x.isNaN || y.isNaN then x + y
  else
    let x := if x < 0.0 then -x else x
    let y := if y < 0.0 then -y else y
    let long := if x < y then y else x
    let short := if x < y then x else y
    if powerOfTwo 511 < long then
      if short ≤ long * powerOfTwo (-54) then long + short
      else correctedRoot (long * powerOfTwo (-600)) (short * powerOfTwo (-600)) / powerOfTwo (-600)
    else if short < powerOfTwo (-459) then
      if short / powerOfTwo (-54) ≤ long then long + short
      else correctedRoot (long / powerOfTwo (-600)) (short / powerOfTwo (-600)) * powerOfTwo (-600)
    else if short ≤ long * powerOfTwo (-54) then long + short
    else correctedRoot long short

end StepScript
