import StepScript.Command.Arguments
import StepScript.Proofs.Number.Nearest
import StepScript.Time.Clock
set_option autoImplicit false

/-!
# Time: pauses at another speed

A pause is stretched by the rounded reciprocal of the speed.  Each rounding changes a value by a
small part of it, so a stretched pause becomes the longest duration only if the exact one is not far
from that.  The reciprocal of a speed that is next to nothing is infinite, and infinitely many times
no pause is not a number: then, and only then, no pause becomes the longest one.

Main statement: `Tempo.saturatesLate_ofSpeed`.
-/

namespace StepScript

open Float.Model Float.Model.UnpackedFloat

theorem exactValue_nanosPerSecond : exactValue 1000000000.0 = 10 ^ 9 := by
  have hread : Binary64.ofFloat 1000000000.0 = .finite false (5 ^ 9 * 2 ^ 32) (-23) := by
    decide +kernel
  rw [exactValue, hread]
  norm_num [Binary64.value]

/-! ## Durations -/

namespace Duration

theorem cast_maxNanos : (maxNanos : ℚ) = 2 ^ 64 * 10 ^ 9 - 1 := by
  norm_num [maxNanos, nanosPerSecond, UInt64.size]

theorem nanos_div_le (d : Duration) : (d.nanos / 10 ^ 9 : ℚ) ≤ 2 ^ 64 := by
  have hle : (d.nanos : ℚ) ≤ maxNanos := by exact_mod_cast d.nanos_le
  rw [cast_maxNanos] at hle
  linarith

/-- Seconds that are not negative, and a second short of the limit, are a duration. -/
theorem exists_ofSeconds? {x : Float} (hx : x.isFinite = true) (hnonneg : 0 ≤ exactValue x)
    (hlimit : exactValue x ≤ 2 ^ 64 - 1) :
    ∃ d, ofSeconds? x = some d ∧ (d.nanos : ℚ) ≤ exactValue x * 10 ^ 9 + 1 / 2 ∧
      d.nanos < maxNanos := by
  obtain ⟨negative, m, e, hread⟩ := ofFloat_of_isFinite hx
  have hvalue : exactValue x = (if negative then -(m * 2 ^ e) else m * 2 ^ e : ℚ) := by
    rw [exactValue, hread]
    rfl
  obtain ⟨hsign, hmagnitude⟩ : (negative && m != 0) = false ∧ exactValue x = m * 2 ^ e := by
    cases negative with
    | false => exact ⟨rfl, hvalue⟩
    | true =>
        -- Of the numbers with a minus sign only zero is not negative.
        rw [if_pos rfl] at hvalue
        rcases Nat.eq_zero_or_pos m with rfl | hpos
        · exact ⟨rfl, by rw [hvalue, Nat.cast_zero, zero_mul, neg_zero]⟩
        · have hbelow := magnitude_pos hpos e
          linarith
  obtain ⟨q, hq⟩ : ∃ q, q = Binary64.quotient m e := ⟨_, rfl⟩
  obtain ⟨nanos, hnanos⟩ : ∃ n, n = roundDiv .toEven (q.1 * nanosPerSecond) q.2 := ⟨_, rfl⟩
  have hround : (nanos : ℚ) ≤ exactValue x * 10 ^ 9 + 1 / 2 := by
    have hvalue : ((q.1 * nanosPerSecond : Nat) / q.2 : ℚ) = exactValue x * 10 ^ 9 := by
      rw [hmagnitude, ← quotient_value, ← hq]
      unfold nanosPerSecond
      push_cast
      ring
    rw [hnanos, ← hvalue]
    exact roundDiv_le _ _ (hq ▸ Binary64.quotient_snd_pos m e)
  have hlt : nanos < maxNanos := by
    have hcast : (nanos : ℚ) < maxNanos := by
      rw [cast_maxNanos]
      linarith
    exact_mod_cast hcast
  refine ⟨⟨nanos, hlt.le⟩, ?_, hround, hlt⟩
  unfold ofSeconds?
  rw [hread]
  dsimp only
  rw [hsign, if_neg Bool.false_ne_true, ← hq, ← hnanos, dif_pos hlt.le]

/-- A duration in seconds is not much longer than it is. -/
theorem exactValue_seconds (d : Duration) :
    d.seconds.isFinite = true ∧ 0 ≤ exactValue d.seconds ∧
      exactValue d.seconds ≤ 4913 / 4096 * (d.nanos / 10 ^ 9) + 6 * halfLeast := by
  have hwhole : (UInt64.ofNat d.wholeSeconds).toNat = d.wholeSeconds := by
    have hle := d.nanos_le
    rw [UInt64.toNat_ofNat']
    refine Nat.mod_eq_of_lt ?_
    unfold wholeSeconds
    unfold maxNanos nanosPerSecond at *
    simp only [UInt64.size] at hle
    omega
  have hsub : (UInt64.ofNat d.subNanos).toNat = d.subNanos := by
    rw [UInt64.toNat_ofNat']
    refine Nat.mod_eq_of_lt ?_
    unfold subNanos nanosPerSecond
    omega
  have hparts : (d.nanos / 10 ^ 9 : ℚ) = d.wholeSeconds + d.subNanos / 10 ^ 9 := by
    exact_mod_cast cast_div_eq d.nanos (show 0 < nanosPerSecond by decide)
  have hlimit := d.nanos_div_le
  have hwhole0 : (0 : ℚ) ≤ d.wholeSeconds := Nat.cast_nonneg _
  have hsub0 : (0 : ℚ) ≤ d.subNanos / 10 ^ 9 := by positivity
  have hleast := halfLeast_le_one
  -- The whole seconds and the nanoseconds.
  have hw := isNearest_toFloat (UInt64.ofNat d.wholeSeconds)
  have hf := isNearest_toFloat (UInt64.ofNat d.subNanos)
  rw [hwhole] at hw
  rw [hsub] at hf
  have hwLow := hw.nonneg hwhole0
  have hwHigh := hw.le_of_nonneg hwhole0
  have hfLow := hf.nonneg (Nat.cast_nonneg _)
  have hfHigh := hf.le_of_nonneg (Nat.cast_nonneg _)
  -- The fraction.
  have hg0 : 0 ≤ exactValue (UInt64.ofNat d.subNanos).toFloat / exactValue 1000000000.0 := by
    rw [exactValue_nanosPerSecond]
    positivity
  have hg := isNearest_div hf.isFinite (y := 1000000000.0) (by decide +kernel)
    (by rw [exactValue_nanosPerSecond]; norm_num)
    (abs_le_largestValue hg0 (by rw [exactValue_nanosPerSecond]; linarith))
  have hgLow := hg.nonneg hg0
  have hgHigh := hg.le_of_nonneg hg0
  rw [exactValue_nanosPerSecond] at hgHigh
  -- Their sum.
  have hs := isNearest_add hw.isFinite hg.isFinite
    (abs_le_largestValue (add_nonneg hwLow hgLow) (by linarith))
  have hsHigh := hs.le_of_nonneg (add_nonneg hwLow hgLow)
  refine ⟨hs.isFinite, hs.nonneg (add_nonneg hwLow hgLow), hsHigh.trans ?_⟩
  linarith [halfLeast_pos]

end Duration

/-! ## Speeds -/

namespace Tempo

/-- The sleeps of a player that goes through the pauses of a run. -/
def sleeps (t : Tempo) (pauses : List Duration) : List Duration :=
  (pauses.map t.scaled).filter fun d => !d.isZero

/-- What holds of every pause at a speed. -/
structure SaturatesLate (speed : Float) : Prop where
  /-- A pause becomes the longest one only if its exact length is at least half of that. -/
  late : ∀ d, d ≠ .zero → (ofSpeed speed).scaled d = .max →
    (maxNanos / 2 : ℚ) ≤ d.nanos / exactValue speed
  /-- No pause stays none, and a run of such pauses is not slept through. -/
  none_stays : 2 ^ (-1024 : Int) < exactValue speed → (ofSpeed speed).scaled .zero = .zero ∧
    ∀ pauses, (∀ d ∈ pauses, d = .zero) → (ofSpeed speed).sleeps pauses = []
  /-- At a speed next to nothing, no pause becomes the longest one. -/
  none_lost : exactValue speed ≤ 2 ^ (-1024 : Int) → (ofSpeed speed).scaled .zero = .max

theorem ofSpeed_of_positive {speed : Float} (hfinite : speed.isFinite = true)
    (hpositive : 0.0 < speed) : ofSpeed speed = ⟨1.0 / speed⟩ := by
  rw [ofSpeed, if_pos]
  rw [hfinite, Bool.true_and, decide_eq_true_eq]
  exact hpositive

/-- Doubles are whole numbers of the least one, so the reciprocal of a speed is a double unless the
speed is next to nothing. -/
theorem isNearest_reciprocal {speed : Float} (hfinite : speed.isFinite = true)
    (hspeed : 2 ^ (-1024 : Int) < exactValue speed) :
    IsNearest (1 / exactValue speed) (1.0 / speed) := by
  have hpos : 0 < exactValue speed := lt_trans (zpow_pos two_pos _) hspeed
  have hle : |1 / exactValue speed| ≤ largestValue := by
    rw [abs_of_pos (one_div_pos.mpr hpos), div_le_iff₀ hpos]
    obtain ⟨k, hk⟩ : ∃ k : Int, exactValue speed = k * 2 ^ (-1074 : Int) := by
      rw [exactValue_eq]
      rcases multiple_or_lt (isDouble_unpack hfinite) (-1074) with hmultiple | ⟨hne, -⟩
      · exact hmultiple
      · exact absurd rfl hne
    have hleast : (0 : ℚ) < 2 ^ (-1074 : Int) := zpow_pos two_pos _
    have hsplit : (2 ^ (-1024 : Int) : ℚ) = 2 ^ 50 * 2 ^ (-1074 : Int) := by
      rw [← zpow_natCast, ← zpow_add₀ two_ne_zero]
      rfl
    have hk50 : (2 ^ 50 + 1 : ℚ) ≤ k := by
      rw [hk, hsplit, mul_lt_mul_iff_left₀ hleast] at hspeed
      have hlt : (2 ^ 50 : Int) < k := by exact_mod_cast hspeed
      exact_mod_cast Int.add_one_le_of_lt hlt
    have hpow : (2 ^ (971 : Int) * 2 ^ (-1074 : Int) : ℚ) = 1 / 2 ^ 103 := by
      rw [← zpow_add₀ two_ne_zero]
      norm_num
    calc (1 : ℚ) ≤ (2 ^ 53 - 1) * (2 ^ 50 + 1) * (1 / 2 ^ 103) := by norm_num
      _ ≤ (2 ^ 53 - 1) * k * (1 / 2 ^ 103) := by gcongr
      _ = largestValue * exactValue speed := by
          rw [hk, largestValue, ← hpow]
          ring
  have hdiv := isNearest_div (x := 1.0) (by decide +kernel) hfinite hpos.ne'
    (by rw [exactValue_one]; exact hle)
  rw [exactValue_one] at hdiv
  exact hdiv

/-- The rounding errors of its factors make the product of a pause that is not too long larger by
less than a half. -/
theorem seconds_mul_reciprocal_le {speed : Float} (hfinite : speed.isFinite = true)
    (hspeed : 2 ^ (-1024 : Int) < exactValue speed) {d : Duration}
    (hshort : d.nanos / exactValue speed < (maxNanos / 2 : ℚ)) :
    0 ≤ exactValue d.seconds * exactValue (1.0 / speed) ∧
      exactValue d.seconds * exactValue (1.0 / speed) ≤ 11 / 8 * 2 ^ 63 := by
  have hpos : 0 < exactValue speed := lt_trans (zpow_pos two_pos _) hspeed
  obtain ⟨-, hs0, hsHigh⟩ := d.exactValue_seconds
  have hr := isNearest_reciprocal hfinite hspeed
  have hr0 : 0 ≤ 1 / exactValue speed := by positivity
  have hrLow := hr.nonneg hr0
  have hrHigh := hr.le_of_nonneg hr0
  have hreciprocal : halfLeast * (1 / exactValue speed) ≤ 1 := by
    refine halfLeast_mul_le ?_
    calc 1 / exactValue speed ≤ 1 / 2 ^ (-1024 : Int) :=
          one_div_le_one_div_of_le (zpow_pos two_pos _) hspeed.le
      _ = 2 ^ 1024 := by rw [zpow_neg, zpow_ofNat, one_div, inv_inv]
  have hseconds : halfLeast * (d.nanos / 10 ^ 9) ≤ 1 :=
    halfLeast_mul_le (d.nanos_div_le.trans (pow_le_pow_right₀ one_le_two (by omega)))
  have hsquare : halfLeast * halfLeast ≤ 1 :=
    halfLeast_mul_le (halfLeast_le_one.trans (one_le_pow₀ one_le_two))
  have hexact : d.nanos / 10 ^ 9 * (1 / exactValue speed) ≤ 2 ^ 63 := by
    rw [Duration.cast_maxNanos] at hshort
    calc d.nanos / 10 ^ 9 * (1 / exactValue speed) = d.nanos / exactValue speed / 10 ^ 9 := by ring
      _ ≤ 2 ^ 63 := by linarith
  refine ⟨mul_nonneg hs0 hrLow, ?_⟩
  calc exactValue d.seconds * exactValue (1.0 / speed)
      ≤ (4913 / 4096 * (d.nanos / 10 ^ 9) + 6 * halfLeast) *
          (17 / 16 * (1 / exactValue speed) + halfLeast) :=
        mul_le_mul hsHigh hrHigh hrLow (hs0.trans hsHigh)
    _ = 83521 / 65536 * (d.nanos / 10 ^ 9 * (1 / exactValue speed)) +
          4913 / 4096 * (halfLeast * (d.nanos / 10 ^ 9)) +
            51 / 8 * (halfLeast * (1 / exactValue speed)) + 6 * (halfLeast * halfLeast) := by
        ring
    _ ≤ 11 / 8 * 2 ^ 63 := by linarith

/-- A pause that is not too long is stretched to a duration that is not the longest, and none to
none. -/
theorem exists_scaled {speed : Float} (hfinite : speed.isFinite = true) (hpositive : 0.0 < speed)
    (hspeed : 2 ^ (-1024 : Int) < exactValue speed) {d : Duration}
    (hshort : d.nanos / exactValue speed < (maxNanos / 2 : ℚ)) :
    ∃ d', (ofSpeed speed).scaled d = d' ∧ d'.nanos < maxNanos ∧
      (exactValue d.seconds = 0 → d' = .zero) := by
  obtain ⟨hproduct0, hproduct⟩ := seconds_mul_reciprocal_le hfinite hspeed hshort
  have hp := isNearest_mul d.exactValue_seconds.1 (isNearest_reciprocal hfinite hspeed).isFinite
    (abs_le_largestValue hproduct0 (by linarith))
  have hpHigh := hp.le_of_nonneg hproduct0
  have hleast := halfLeast_le_one
  obtain ⟨d', hread, hround, hlt⟩ := Duration.exists_ofSeconds? hp.isFinite (hp.nonneg hproduct0)
    (by linarith)
  refine ⟨d', ?_, hlt, fun hzero => ?_⟩
  · rw [ofSpeed_of_positive hfinite hpositive, scaled, hread]
    rfl
  · rw [hzero, zero_mul] at hp
    have hvalue := hp.eq_of_eq (y := 0.0) (by decide +kernel) exactValue_zero.symm
    rw [hvalue, exactValue_zero, zero_mul, zero_add] at hround
    have hlt : (d'.nanos : ℚ) < 1 := lt_of_le_of_lt hround one_half_lt_one
    exact Duration.ext (Nat.lt_one_iff.mp (by exact_mod_cast hlt))

/-- The reciprocal of a speed next to nothing is past the range of doubles. -/
theorem two_pow_le_reciprocal {v : ℚ} (hpos : 0 < v) (hv : v ≤ 2 ^ (-1024 : Int)) :
    2 ^ (1024 : Int) ≤ 1 / v := by
  calc (2 ^ (1024 : Int) : ℚ) = 1 / 2 ^ (-1024 : Int) := by rw [zpow_neg, one_div, inv_inv]
    _ ≤ 1 / v := one_div_le_one_div_of_le hpos hv

theorem seconds_zero : Duration.zero.seconds = 0.0 := by decide +kernel

/-- Infinitely many times no pause is no duration. -/
theorem scaled_zero_of_infinite {t : Tempo} {s : Sign}
    (h : t.scale.toModel.unpack = .infinity s) : t.scaled .zero = .max := by
  have hzero : (0.0 : Float).toModel.unpack = .zero .positive := by rfl
  have hmul : UnpackedFloat.mul .binary64 (.zero .positive) (.infinity s) = .notANumber := rfl
  have hnan : (Float.Model.pack .notANumber).unpack = .notANumber := UnpackedFloat.isNaN_iff.mp rfl
  have hproduct : (0.0 * t.scale).toModel.unpack = .notANumber := by
    change (Float.Model.pack (.mul .binary64 (0.0 : Float).toModel.unpack
      t.scale.toModel.unpack)).unpack = .notANumber
    rw [h, hzero, hmul, hnan]
  rw [scaled, seconds_zero, Duration.ofSeconds?, Binary64.ofFloat, hproduct]
  rfl

/-- **At every speed, a pause saturates only if it is too long**, but for no pause at a speed next
to nothing. -/
theorem saturatesLate_ofSpeed {speed : Float} (hfinite : speed.isFinite = true)
    (hpositive : 0.0 < speed) : SaturatesLate speed := by
  have hpos : 0 < exactValue speed := (zero_lt_iff_exactValue hfinite).mp hpositive
  refine ⟨?_, ?_, ?_⟩
  · intro d hd hmax
    rcases lt_or_ge (2 ^ (-1024 : Int)) (exactValue speed) with hspeed | hspeed
    · by_contra hshort
      obtain ⟨d', hscaled, hlt, -⟩ :=
        exists_scaled hfinite hpositive hspeed (not_le.mp hshort)
      rw [hmax] at hscaled
      rw [← hscaled] at hlt
      exact lt_irrefl _ hlt
    · -- The shortest pause is too long at such a speed.
      have hone : (1 : ℚ) ≤ d.nanos := by
        have hne : d.nanos ≠ 0 := fun h => hd (Duration.ext h)
        exact_mod_cast Nat.one_le_iff_ne_zero.mpr hne
      calc (maxNanos / 2 : ℚ) ≤ 2 ^ 100 := by
            rw [Duration.cast_maxNanos]
            norm_num
        _ ≤ 2 ^ 1024 := pow_le_pow_right₀ one_le_two (by omega)
        _ ≤ 1 / exactValue speed := two_pow_le_reciprocal hpos hspeed
        _ ≤ d.nanos / exactValue speed := div_le_div_of_nonneg_right hone hpos.le
  · intro hspeed
    have hshort : (Duration.zero.nanos / exactValue speed : ℚ) < maxNanos / 2 := by
      rw [Duration.cast_maxNanos, show Duration.zero.nanos = 0 from rfl]
      norm_num
    obtain ⟨d', hscaled, -, hzero⟩ := exists_scaled hfinite hpositive hspeed hshort
    have hstays : (ofSpeed speed).scaled .zero = .zero := by
      rw [hscaled]
      exact hzero (by rw [seconds_zero, exactValue_zero])
    refine ⟨hstays, fun pauses hpauses => ?_⟩
    rw [sleeps, List.filter_eq_nil_iff]
    intro d' hmem
    obtain ⟨d, hd, rfl⟩ := List.mem_map.mp hmem
    rw [hpauses d hd, hstays]
    decide
  · intro hspeed
    have hlarge : 2 ^ (1024 : Int) ≤ |exactValue 1.0 / exactValue speed| := by
      rw [exactValue_one, abs_of_pos (one_div_pos.mpr hpos)]
      exact two_pow_le_reciprocal hpos hspeed
    obtain ⟨s, hs⟩ := exists_unpack_div (x := 1.0) (by decide +kernel) hfinite hpos.ne' hlarge
    rw [ofSpeed_of_positive hfinite hpositive]
    exact scaled_zero_of_infinite hs

/-- Half the speed: a pause of more than half the longest one saturates, and no pause stays none. -/
theorem saturatesLate_of_half : ((0.5 : Float).isFinite = true ∧ 0.0 < (0.5 : Float)) ∧
    (ofSpeed 0.5).scaled ⟨10 ^ 28, by decide⟩ = .max ∧ SaturatesLate 0.5 :=
  ⟨by decide +kernel, by decide +kernel,
    saturatesLate_ofSpeed (by decide +kernel) (by decide +kernel)⟩

/-- The least speed is accepted, and at that speed no pause lasts as long as the longest one. -/
theorem scaled_zero_of_least_speed :
    readSpeed? "5e-324" = some 5e-324 ∧ (ofSpeed 5e-324).scaled .zero = .max ∧
      ¬(maxNanos / 2 : ℚ) ≤ Duration.zero.nanos / exactValue 5e-324 := by
  refine ⟨by decide +kernel, by decide +kernel, ?_⟩
  rw [Duration.cast_maxNanos, show Duration.zero.nanos = 0 from rfl]
  norm_num

end Tempo

end StepScript
