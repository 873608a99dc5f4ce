import StepScript.Number.Rounding
set_option autoImplicit false

/-!
# Time: durations

A pause is a whole number of nanoseconds, at most `2^64` seconds less one nanosecond.  Sums stop at
that limit.  Seconds given as a double are rounded from their exact value to the nearest nanosecond,
ties to even.
-/

namespace StepScript

/-- Nanoseconds in one second. -/
def nanosPerSecond : Nat := 1000000000

/-- Nanoseconds of the longest duration. -/
def maxNanos : Nat := UInt64.size * nanosPerSecond - 1

/-- A span of time. -/
structure Duration where
  nanos : Nat
  nanos_le : nanos ≤ maxNanos := by decide
  deriving DecidableEq, Repr

namespace Duration

/-- No time at all. -/
def zero : Duration := ⟨0, Nat.zero_le _⟩

/-- The longest duration. -/
def max : Duration := ⟨maxNanos, Nat.le_refl _⟩

instance : Inhabited Duration := ⟨zero⟩

@[ext] theorem ext {a b : Duration} (h : a.nanos = b.nanos) : a = b := by
  cases a
  cases b
  simp_all

/-- A number of nanoseconds, cut at the longest duration. -/
def ofNanos (n : Nat) : Duration := ⟨min n maxNanos, Nat.min_le_right _ _⟩

/-- A number of milliseconds; every 64-bit number of them fits. -/
def ofMillis (ms : UInt64) : Duration :=
  ⟨ms.toNat * 1000000, by
    have := ms.toNat_lt
    simp only [maxNanos, nanosPerSecond, UInt64.size]
    omega⟩

/-- Whether no time passes. -/
def isZero (d : Duration) : Bool := d.nanos == 0

/-- Sum, stopping at the longest duration. -/
def add (a b : Duration) : Duration := ofNanos (a.nanos + b.nanos)

instance : Add Duration := ⟨add⟩

theorem nanos_add (a b : Duration) : (a + b).nanos = min (a.nanos + b.nanos) maxNanos := rfl

/-- Whole seconds. -/
def wholeSeconds (d : Duration) : Nat := d.nanos / nanosPerSecond

/-- Nanoseconds past the last whole second. -/
def subNanos (d : Duration) : Nat := d.nanos % nanosPerSecond

/-- A duration in seconds: the whole seconds and the fraction are rounded apart, then added. -/
def seconds (d : Duration) : Float :=
  (UInt64.ofNat d.wholeSeconds).toFloat + (UInt64.ofNat d.subNanos).toFloat / 1000000000.0

/-- Seconds as a duration.  There is none for a negative number, for what is not finite and past the
longest duration. -/
def ofSeconds? (x : Float) : Option Duration :=
  match Binary64.ofFloat x with
  | .finite negative mantissa exponent =>
      if negative && mantissa != 0 then none
      else
        let q := Binary64.quotient mantissa exponent
        let nanos := roundDiv .toEven (q.1 * nanosPerSecond) q.2
        if h : nanos ≤ maxNanos then some ⟨nanos, h⟩ else none
  | _ => none

/-- A whole part with a fraction of `width` digits, without trailing zeros. -/
def decimalText (whole fraction width : Nat) : String :=
  let digits := (toString fraction).toList
  let padded := List.replicate (width - digits.length) '0' ++ digits
  let kept := (padded.reverse.dropWhile (· == '0')).reverse
  toString whole ++ (if kept.isEmpty then "" else "." ++ String.ofList kept)

/-- A duration in the largest unit with a whole part: seconds, milliseconds, microseconds or
nanoseconds. -/
def text (d : Duration) : String :=
  if nanosPerSecond ≤ d.nanos then decimalText d.wholeSeconds d.subNanos 9 ++ "s"
  else if 1000000 ≤ d.nanos then
    decimalText (d.nanos / 1000000) (d.nanos % 1000000) 6 ++ "ms"
  else if 1000 ≤ d.nanos then decimalText (d.nanos / 1000) (d.nanos % 1000) 3 ++ "µs"
  else toString d.nanos ++ "ns"

end Duration

end StepScript
