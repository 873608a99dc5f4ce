import StepScript.Proofs.Number.Exact
set_option autoImplicit false

/-!
# Numbers: results are rounded once

Below the range in which a result overflows, sums, products, quotients and conversions of whole
numbers are the exact result, rounded to the nearest double.

Main statements: `isNearest_add`, `isNearest_mul`, `isNearest_div` and `isNearest_toFloat`.
-/

namespace StepScript

open Float.Model Float.Model.UnpackedFloat

/-! ## Accuracy -/

/-- The value `x` is the mantissa `m` or lies above it, as the accuracy says. -/
def Lies (x : ℚ) (m : Nat) : Accuracy → Prop
  | .exact => x = m
  | .inexact .lt => m < x ∧ x < m + 1 / 2
  | .inexact .eq => x = m + 1 / 2
  | .inexact .gt => m + 1 / 2 < x ∧ x < m + 1

theorem Lies.le {x : ℚ} {m : Nat} {a : Accuracy} (h : Lies x m a) : (m : ℚ) ≤ x := by
  cases a with
  | exact => exact h.ge
  | inexact o =>
      cases o with
      | lt => exact h.1.le
      | eq =>
          rw [show x = m + 1 / 2 from h]
          linarith
      | gt => exact (lt_trans (by linarith) h.1).le

theorem Lies.magnitude_nonneg {x : ℚ} {m : Nat} {a : Accuracy} (h : Lies x m a) (e : Int) :
    0 ≤ x * 2 ^ e :=
  mul_nonneg (le_trans (Nat.cast_nonneg m) h.le) (zpow_nonneg zero_le_two _)

/-- Where a value lies is kept in the residual bits. -/
theorem lies_ofMantissaAndAccuracy {x : ℚ} {m : Nat} {a : Accuracy} (h : Lies x m a) :
    Lies x (ExtendedMantissa.ofMantissaAndAccuracy m a).mantissa
      (ExtendedMantissa.ofMantissaAndAccuracy m a).accuracy := by
  cases a with
  | exact => exact h
  | inexact o => cases o <;> exact h

theorem mantissa_ofMantissaAndAccuracy (m : Nat) (a : Accuracy) :
    (ExtendedMantissa.ofMantissaAndAccuracy m a).mantissa = m := by
  cases a with
  | exact => rfl
  | inexact o => cases o <;> rfl

theorem lies_shiftRightOne {x : ℚ} {em : ExtendedMantissa} (h : Lies x em.mantissa em.accuracy) :
    Lies (x / 2) em.shiftRightOne.mantissa em.shiftRightOne.accuracy := by
  obtain ⟨m, roundBit, stickyBit⟩ := em
  obtain ⟨k, rfl | rfl⟩ : ∃ k, m = 2 * k ∨ m = 2 * k + 1 := ⟨m / 2, by omega⟩
  · have hhalf : 2 * k / 2 = k := by omega
    have hodd : (2 * k % 2 != 0) = false := by simp
    cases roundBit <;> cases stickyBit <;>
      simp only [Lies, ExtendedMantissa.accuracy, ExtendedMantissa.shiftRightOne, hhalf, hodd,
        Bool.or_false, Bool.or_true, Bool.or_self] at h ⊢ <;> push_cast at h
    · linarith
    · constructor <;> linarith
    · constructor <;> linarith
    · constructor <;> linarith
  · have hhalf : (2 * k + 1) / 2 = k := by omega
    have hodd : ((2 * k + 1) % 2 != 0) = true := by simp [Nat.add_mod]
    cases roundBit <;> cases stickyBit <;>
      simp only [Lies, ExtendedMantissa.accuracy, ExtendedMantissa.shiftRightOne, hhalf, hodd,
        Bool.or_false, Bool.or_true, Bool.or_self] at h ⊢ <;> push_cast at h
    · linarith
    · constructor <;> linarith
    · constructor <;> linarith
    · constructor <;> linarith

/-- A shift to the right is a division, without loss of where the value lies. -/
theorem lies_shiftRight {x : ℚ} {em : ExtendedMantissa} (h : Lies x em.mantissa em.accuracy)
    (n : Nat) : Lies (x / 2 ^ n) (em >>> n).mantissa (em >>> n).accuracy := by
  induction n with
  | zero =>
      rw [pow_zero, div_one]
      exact h
  | succ n ih =>
      rw [pow_succ, ← div_div]
      exact lies_shiftRightOne ih

theorem mantissa_shiftRight (em : ExtendedMantissa) (n : Nat) :
    (em >>> n).mantissa = em.mantissa / 2 ^ n := by
  induction n with
  | zero => exact (Nat.div_one _).symm
  | succ n ih =>
      rw [pow_succ, ← Nat.div_div_eq_div_mul, ← ih]
      rfl

/-- Rounding goes to one of the two neighbours, and at most half the way between them. -/
theorem roundToNearestEven_spec {x : ℚ} {m : Nat} {a : Accuracy} (h : Lies x m a) :
    |(a.roundToNearestEven m - x : ℚ)| ≤ 1 / 2 ∧ m ≤ a.roundToNearestEven m ∧
      a.roundToNearestEven m ≤ m + 1 := by
  rw [abs_le]
  cases a with
  | exact =>
      obtain rfl : x = m := h
      simp [Accuracy.roundToNearestEven]
  | inexact o =>
      cases o with
      | lt =>
          obtain ⟨hlow, hhigh⟩ := h
          exact ⟨⟨by dsimp only [Accuracy.roundToNearestEven]; linarith,
            by dsimp only [Accuracy.roundToNearestEven]; linarith⟩, le_rfl, Nat.le_succ m⟩
      | gt =>
          obtain ⟨hlow, hhigh⟩ := h
          simp only [Accuracy.roundToNearestEven]
          push_cast
          exact ⟨⟨by linarith, by linarith⟩, Nat.le_succ m, le_rfl⟩
      | eq =>
          obtain rfl : x = m + 1 / 2 := h
          simp only [Accuracy.roundToNearestEven]
          obtain hm | hm := Nat.mod_two_eq_zero_or_one m
          · rw [hm]
            norm_num
          · rw [hm]
            norm_num

/-! ## Nearest doubles -/

/-- Half of the least double above zero. -/
def halfLeast : ℚ := 1 / 2 ^ 1075

theorem halfLeast_pos : 0 < halfLeast := by
  unfold halfLeast
  positivity

/-- A finite double such that no other is nearer to the value `q`. -/
structure NearestTo (q : ℚ) (u : UnpackedFloat) : Prop where
  isDouble : IsDouble u
  nearest : ∀ v, IsDouble v → |unpackedValue u - q| ≤ |unpackedValue v - q|
  /-- Half a unit in the last place is a part of the value, or of the least double. -/
  error_le : |unpackedValue u - q| ≤ |q| / 2 ^ 53 + halfLeast

theorem halfLeast_le_one : halfLeast ≤ 1 := by
  unfold halfLeast
  exact div_le_one_of_le₀ (one_le_pow₀ one_le_two) (by positivity)

theorem halfLeast_mul_le {q : ℚ} (hq : q ≤ 2 ^ 1024) : halfLeast * q ≤ 1 := by
  unfold halfLeast
  rw [one_div_mul_eq_div]
  exact div_le_one_of_le₀ (hq.trans (pow_le_pow_right₀ one_le_two (by omega))) (by positivity)

/-- The value itself is nearest to it. -/
theorem NearestTo.of_eq {q : ℚ} {u : UnpackedFloat} (hu : IsDouble u) (h : unpackedValue u = q) :
    NearestTo q u where
  isDouble := hu
  nearest v _ := by
    rw [h, sub_self, abs_zero]
    exact abs_nonneg _
  error_le := by
    rw [h, sub_self, abs_zero]
    exact add_nonneg (by positivity) halfLeast_pos.le

/-- No integer is nearer than one that is at most half away. -/
theorem abs_sub_le_of_le_half {r : Int} {z : ℚ} (h : |(r - z : ℚ)| ≤ 1 / 2) (k : Int) :
    |(r - z : ℚ)| ≤ |(k - z : ℚ)| := by
  by_cases hk : k = r
  · rw [hk]
  · have hone : (1 : ℚ) ≤ |(k - r : ℚ)| := by
      exact_mod_cast Int.one_le_abs (sub_ne_zero.mpr hk)
    have htriangle : |(k - r : ℚ)| ≤ |(k - z : ℚ)| + |(r - z : ℚ)| := by
      rw [abs_sub_comm (r : ℚ)]
      exact abs_sub_le _ _ _
    linarith

/-- A magnitude with a sign is an integer number of smaller steps. -/
theorem signed_eq_apply_decreased (s : Sign) (m : Nat) {e f : Int} (h : f ≤ e) :
    signed s (m * 2 ^ e) = (s.apply (m <<< (e - f).toNat : Nat) : Int) * 2 ^ f := by
  rw [magnitude_eq_shiftLeft m h]
  generalize m <<< (e - f).toNat = n
  cases s with
  | positive =>
      change (n * 2 ^ f : ℚ) = (n : Int) * 2 ^ f
      rw [Int.cast_natCast]
  | negative =>
      change -(n * 2 ^ f : ℚ) = (-n : Int) * 2 ^ f
      rw [Int.cast_neg, Int.cast_natCast, neg_mul]

/-- A double is a whole number of steps, or it is below the doubles with 53 bits that are. -/
theorem multiple_or_lt {v : UnpackedFloat} (hv : IsDouble v) (t : Int) :
    (∃ k : Int, unpackedValue v = k * 2 ^ t) ∨
      t ≠ -1074 ∧ unpackedValue v < 2 ^ 52 * 2 ^ t := by
  cases v with
  | notANumber => exact hv.elim
  | infinity s => exact hv.elim
  | zero s => exact .inl ⟨0, by simp [unpackedValue]⟩
  | finite s m e hm =>
      obtain ⟨hlt, hge, -, -⟩ := hv
      rcases le_or_gt t e with hte | het
      · exact .inl ⟨_, signed_eq_apply_decreased s m hte⟩
      · right
        refine ⟨by omega, ?_⟩
        calc unpackedValue (.finite s m e hm) ≤ m * 2 ^ e := by
              have hpos := magnitude_pos hm e
              cases s with
              | positive => exact le_rfl
              | negative => exact (neg_neg_of_pos hpos).le.trans hpos.le
          _ < 2 ^ 53 * 2 ^ e := by
              gcongr
              exact_mod_cast hlt
          _ = 2 ^ 52 * 2 ^ (e + 1) := by
              rw [zpow_add_one₀ two_ne_zero]
              ring
          _ ≤ 2 ^ 52 * 2 ^ t := by
              gcongr
              · exact one_le_two
              · omega

/-- A magnitude that has been rounded to a whole number of steps, with 53 bits if the steps are not
the least ones. -/
structure RoundedTo (r : Nat) (t : Int) (q : ℚ) : Prop where
  step_ge : -1074 ≤ t
  normal : t = -1074 ∨ 2 ^ 52 * 2 ^ t ≤ q
  half : |(r - q / 2 ^ t : ℚ)| ≤ 1 / 2

theorem RoundedTo.nearest {r : Nat} {t : Int} {q : ℚ} (h : RoundedTo r t q) {v : UnpackedFloat}
    (hv : IsDouble v) : |(r * 2 ^ t - q : ℚ)| ≤ |unpackedValue v - q| := by
  have hpow : (0 : ℚ) < 2 ^ t := by positivity
  have hscale : ∀ x : ℚ, |x * 2 ^ t - q| = |x - q / 2 ^ t| * 2 ^ t := fun x => by
    rw [← abs_of_pos hpow, ← abs_mul, abs_of_pos hpow, sub_mul, div_mul_cancel₀ _ hpow.ne']
  have hinteger : ∀ k : Int, |(r * 2 ^ t - q : ℚ)| ≤ |k * 2 ^ t - q| := fun k => by
    have hhalf : |((r : Int) - q / 2 ^ t : ℚ)| ≤ 1 / 2 := by
      rw [Int.cast_natCast]
      exact h.half
    have hle := abs_sub_le_of_le_half hhalf k
    rw [Int.cast_natCast] at hle
    rw [hscale, hscale]
    exact mul_le_mul_of_nonneg_right hle hpow.le
  rcases multiple_or_lt hv t with ⟨k, hk⟩ | ⟨hstep, hbelow⟩
  · rw [hk]
    exact hinteger k
  · -- Below the doubles with 53 bits the distance is larger still.
    have hq := h.normal.resolve_left hstep
    have hleast := hinteger (2 ^ 52)
    rw [Int.cast_pow, Int.cast_ofNat] at hleast
    calc |(r * 2 ^ t - q : ℚ)| ≤ |2 ^ 52 * 2 ^ t - q| := hleast
      _ = q - 2 ^ 52 * 2 ^ t := by rw [abs_sub_comm, abs_of_nonneg (by linarith)]
      _ ≤ q - unpackedValue v := by linarith
      _ ≤ |unpackedValue v - q| := by
          rw [abs_sub_comm]
          exact le_abs_self _

theorem RoundedTo.error_le {r : Nat} {t : Int} {q : ℚ} (h : RoundedTo r t q) (hq : 0 ≤ q) :
    |(r * 2 ^ t - q : ℚ)| ≤ q / 2 ^ 53 + halfLeast := by
  have hpow : (0 : ℚ) < 2 ^ t := by positivity
  have hhalf : |(r * 2 ^ t - q : ℚ)| ≤ 1 / 2 * 2 ^ t := by
    have hscale : (r * 2 ^ t - q : ℚ) = (r - q / 2 ^ t) * 2 ^ t := by
      rw [sub_mul, div_mul_cancel₀ _ hpow.ne']
    rw [hscale, abs_mul, abs_of_pos hpow]
    gcongr
    exact h.half
  refine hhalf.trans ?_
  rcases h.normal with rfl | hnormal
  · have hleast : (1 / 2 * 2 ^ (-1074 : Int) : ℚ) = halfLeast := by
      rw [halfLeast, zpow_neg, zpow_ofNat, pow_succ' _ 1074, ← one_div, div_mul_div_comm, one_mul]
    rw [hleast]
    exact le_add_of_nonneg_left (by positivity)
  · have hpart : (1 / 2 * 2 ^ t : ℚ) ≤ q / 2 ^ 53 := by
      rw [le_div_iff₀ (by positivity)]
      calc (1 / 2 * 2 ^ t * 2 ^ 53 : ℚ) = 2 ^ 52 * 2 ^ t := by ring
        _ ≤ q := hnormal
    exact hpart.trans (le_add_of_nonneg_right halfLeast_pos.le)

/-! ## Rounding -/

/-- The exponent to which a magnitude is rounded. -/
def stepOf (m : Nat) (e : Int) : Int := max (m.log2 + e - 52) (-1074)

theorem targetExponent_binary64 (m : Nat) (e : Int) :
    Format.binary64.targetExponent (totalExponent m e) = stepOf m e := by
  change max ((m.log2 : Int) + 1 + e - 53) (-1074) = max _ _
  congr 1
  omega

/-- The mantissa after a magnitude has been rounded. -/
def roundedMantissa (m : Nat) (e : Int) (a : Accuracy) : Nat :=
  (ExtendedMantissa.ofMantissaAndAccuracy m a >>> (stepOf m e - e).toNat).roundedMantissa

/-- A magnitude with a sign, zero included. -/
def ofMagnitude (s : Sign) (m : Nat) (e : Int) : UnpackedFloat :=
  if h : m = 0 then .zero s else .finite s m e (Nat.pos_of_ne_zero h)

theorem unpackedValue_ofMagnitude (s : Sign) (m : Nat) (e : Int) :
    unpackedValue (ofMagnitude s m e) = signed s (m * 2 ^ e) := by
  unfold ofMagnitude
  split
  case isTrue h =>
    rw [h, Nat.cast_zero, zero_mul]
    cases s
    · exact neg_zero.symm
    · rfl
  case isFalse => rfl

theorem isDouble_ofMagnitude (s : Sign) {m : Nat} {e : Int} (h : Canonical m e) :
    IsDouble (ofMagnitude s m e) := by
  unfold ofMagnitude
  split
  · trivial
  · exact h

/-- After a mantissa is rounded, it is shifted once more if it has become too long. -/
theorem roundWithAccuracy_eq (s : Sign) {m : Nat} {e : Int} (a : Accuracy) (he : e ≤ stepOf m e) :
    roundWithAccuracy .binary64 s m e a =
      let r := roundedMantissa m e a
      let shift := (stepOf r (stepOf m e) - stepOf m e).toNat
      ofMagnitude s (r / 2 ^ shift) (stepOf m e + shift) := by
  have hstep : e + (stepOf m e - e).toNat = stepOf m e := by omega
  unfold roundWithAccuracy shiftToTargetExponent shiftToExponent
  simp only [targetExponent_binary64, hstep, mantissa_shiftRight]
  rfl

/-- The first shift leaves 53 bits, or fewer with the least step. -/
theorem mantissa_of_stepOf {m : Nat} {e : Int} (he : e ≤ stepOf m e) :
    m / 2 ^ (stepOf m e - e).toNat < 2 ^ 53 ∧
      (stepOf m e = -1074 ∨ 2 ^ 52 ≤ m / 2 ^ (stepOf m e - e).toNat) := by
  have hlow : (m.log2 : Int) + e - 52 ≤ stepOf m e := le_max_left _ _
  constructor
  · rw [Nat.div_lt_iff_lt_mul (by positivity), ← pow_add]
    calc m < 2 ^ (m.log2 + 1) := Nat.lt_log2_self
      _ ≤ 2 ^ (53 + (stepOf m e - e).toNat) := Nat.pow_le_pow_right two_pos (by omega)
  · rcases eq_or_ne (stepOf m e) (-1074) with hleast | hne
    · exact .inl hleast
    · right
      have hlog : stepOf m e = m.log2 + e - 52 := by
        unfold stepOf at hne ⊢
        omega
      have hm : m ≠ 0 := by
        rintro rfl
        simp only [Nat.log2_zero, Nat.cast_zero] at hlog
        omega
      rw [Nat.le_div_iff_mul_le (by positivity), ← pow_add, ← Nat.le_log2 hm]
      omega

/-- What the rounded mantissa is, for a magnitude that lies as the accuracy says. -/
theorem roundedMantissa_spec {x : ℚ} {m : Nat} {e : Int} {a : Accuracy} (hx : Lies x m a)
    (he : e ≤ stepOf m e) :
    RoundedTo (roundedMantissa m e a) (stepOf m e) (x * 2 ^ e) ∧
      roundedMantissa m e a ≤ 2 ^ 53 ∧
        (stepOf m e = -1074 ∨ 2 ^ 52 ≤ roundedMantissa m e a) := by
  obtain ⟨hfits, hfull⟩ := mantissa_of_stepOf he
  have hlies := lies_shiftRight (lies_ofMantissaAndAccuracy hx) (stepOf m e - e).toNat
  rw [mantissa_shiftRight, mantissa_ofMantissaAndAccuracy] at hlies
  obtain ⟨hhalf, hlow, hhigh⟩ := roundToNearestEven_spec hlies
  have hround : roundedMantissa m e a = Accuracy.roundToNearestEven
      (m / 2 ^ (stepOf m e - e).toNat)
      (ExtendedMantissa.ofMantissaAndAccuracy m a >>> (stepOf m e - e).toNat).accuracy := by
    rw [roundedMantissa, ExtendedMantissa.roundedMantissa, mantissa_shiftRight,
      mantissa_ofMantissaAndAccuracy]
  have hscale : (x * 2 ^ e / 2 ^ stepOf m e : ℚ) = x / 2 ^ (stepOf m e - e).toNat := by
    rw [two_zpow_eq he, mul_div_mul_right _ _ (by positivity)]
  have hbelow : ((m / 2 ^ (stepOf m e - e).toNat : Nat) : ℚ) ≤ x / 2 ^ (stepOf m e - e).toNat :=
    hlies.le
  rw [← hround] at hhalf hlow hhigh
  refine ⟨⟨le_max_right _ _, hfull.imp_right fun hbits => ?_, by rw [hscale]; exact hhalf⟩,
    by omega, hfull.imp_right fun hbits => by omega⟩
  rw [← le_div_iff₀ (by positivity), hscale]
  exact le_trans (by exact_mod_cast hbits) hbelow

/-- The second shift keeps the value, and leaves a double if the exponent is not too large. -/
theorem ofMagnitude_shift (s : Sign) {r : Nat} {t : Int} (hr : r ≤ 2 ^ 53) (ht : -1074 ≤ t)
    (hhigh : t ≤ 971) (hshort : t = 971 → r < 2 ^ 53) (hnormal : t = -1074 ∨ 2 ^ 52 ≤ r) :
    IsDouble (ofMagnitude s (r / 2 ^ (stepOf r t - t).toNat) (t + (stepOf r t - t).toNat)) ∧
      unpackedValue (ofMagnitude s (r / 2 ^ (stepOf r t - t).toNat) (t + (stepOf r t - t).toNat)) =
        signed s (r * 2 ^ t) := by
  rw [unpackedValue_ofMagnitude]
  rcases hr.lt_or_eq with hlt | rfl
  · have hshift : (stepOf r t - t).toNat = 0 := by
      have hlog : r.log2 ≤ 52 := by
        rcases Nat.eq_zero_or_pos r with rfl | hpos
        · decide
        · exact Nat.lt_succ_iff.mp ((Nat.log2_lt hpos.ne').mpr hlt)
      unfold stepOf
      omega
    rw [hshift, pow_zero, Nat.div_one, Nat.cast_zero, add_zero]
    exact ⟨isDouble_ofMagnitude s ⟨hlt, ht, hhigh, hnormal.symm⟩, rfl⟩
  · have hshift : (stepOf (2 ^ 53) t - t).toNat = 1 := by
      unfold stepOf
      rw [Nat.log2_two_pow]
      omega
    have hbelow : t ≠ 971 := fun heq => (hshort heq).false
    rw [hshift]
    refine ⟨isDouble_ofMagnitude s ⟨by decide, by omega, by push_cast; omega, .inl (by decide)⟩, ?_⟩
    have hhalf : 2 ^ 53 / 2 ^ 1 = 2 ^ 52 := rfl
    rw [hhalf, Nat.cast_one, zpow_add_one₀ two_ne_zero]
    congr 1
    push_cast
    ring

theorem abs_signed_sub (s : Sign) (a b : ℚ) : |signed s a - signed s b| = |a - b| := by
  cases s with
  | positive => rfl
  | negative =>
      change |-a - -b| = |a - b|
      rw [neg_sub_neg, abs_sub_comm]

theorem abs_signed (s : Sign) (a : ℚ) : |signed s a| = |a| := by
  cases s with
  | positive => rfl
  | negative => exact abs_neg a

/-- A rounded magnitude with a sign is nearest to the exact one with the sign. -/
theorem RoundedTo.nearestTo {r : Nat} {t : Int} {q : ℚ} (h : RoundedTo r t q) (hq : 0 ≤ q)
    (s : Sign) {u : UnpackedFloat} (hu : IsDouble u)
    (hvalue : unpackedValue u = signed s (r * 2 ^ t)) : NearestTo (signed s q) u where
  isDouble := hu
  nearest v hv := by
    rw [hvalue, abs_signed_sub]
    cases s with
    | positive => exact h.nearest hv
    | negative =>
        have hneg := h.nearest hv.neg
        have hflip : -unpackedValue v - q = -(unpackedValue v - -q) := by ring
        rw [unpackedValue_neg, hflip, abs_neg] at hneg
        exact hneg
  error_le := by
    rw [hvalue, abs_signed_sub, abs_signed, abs_of_nonneg hq]
    exact h.error_le hq

/-- The largest finite double. -/
def largestValue : ℚ := (2 ^ 53 - 1) * 2 ^ (971 : Int)

theorem two_pow_le_largestValue : (2 ^ 100 : ℚ) ≤ largestValue := by
  calc (2 ^ 100 : ℚ) ≤ 2 ^ 971 := pow_le_pow_right₀ one_le_two (by omega)
    _ = 1 * 2 ^ (971 : Int) := (one_mul _).symm
    _ ≤ largestValue := mul_le_mul_of_nonneg_right (by norm_num) (zpow_nonneg zero_le_two _)

theorem abs_le_largestValue {q : ℚ} (hq : 0 ≤ q) (h : q ≤ 2 ^ 100) : |q| ≤ largestValue := by
  rw [abs_of_nonneg hq]
  exact h.trans two_pow_le_largestValue

/-- What is not above the largest double is rounded with an exponent of the range, and with the
largest one not to a longer mantissa. -/
theorem RoundedTo.in_range {r : Nat} {t : Int} {q : ℚ} (h : RoundedTo r t q)
    (hq : q ≤ largestValue) : t ≤ 971 ∧ (t = 971 → r < 2 ^ 53) := by
  constructor
  · rcases h.normal with hleast | hnormal
    · omega
    · have hpow : (2 : ℚ) ^ (52 + t) < 2 ^ (53 + 971 : Int) := by
        rw [zpow_add₀ two_ne_zero, zpow_add₀ two_ne_zero]
        calc (2 ^ (52 : Int) * 2 ^ t : ℚ) ≤ q := hnormal
          _ ≤ (2 ^ 53 - 1) * 2 ^ (971 : Int) := hq
          _ < 2 ^ (53 : Int) * 2 ^ (971 : Int) :=
              mul_lt_mul_of_pos_right (sub_one_lt _) (zpow_pos two_pos _)
      have := (zpow_lt_zpow_iff_right₀ one_lt_two).mp hpow
      omega
  · rintro rfl
    have hsteps : q / 2 ^ (971 : Int) ≤ 2 ^ 53 - 1 :=
      (div_le_iff₀ (zpow_pos two_pos _)).mpr hq
    have hhalf := (abs_le.mp h.half).2
    have hlt : (r : ℚ) < 2 ^ 53 := by linarith
    exact_mod_cast hlt

/-- Rounding gives the nearest double, below the range in which it overflows. -/
theorem nearestTo_roundWithAccuracy (s : Sign) {x : ℚ} {m : Nat} {e : Int} {a : Accuracy}
    (hx : Lies x m a) (he : e ≤ stepOf m e) (hsmall : x * 2 ^ e ≤ largestValue) :
    NearestTo (signed s (x * 2 ^ e)) (roundWithAccuracy .binary64 s m e a) := by
  obtain ⟨hrounded, hr, hfull⟩ := roundedMantissa_spec hx he
  obtain ⟨hhigh, hshort⟩ := hrounded.in_range hsmall
  obtain ⟨hdouble, hvalue⟩ := ofMagnitude_shift s hr hrounded.step_ge hhigh hshort hfull
  rw [roundWithAccuracy_eq s a he]
  exact hrounded.nearestTo (hx.magnitude_nonneg e) s hdouble hvalue

theorem stepOf_shiftLeft {m : Nat} (hm : 0 < m) (e : Int) (k : Nat) :
    stepOf (m <<< k) (e - k) = stepOf m e := by
  have hpos : m <<< k ≠ 0 := by
    rw [Nat.shiftLeft_eq]
    positivity
  have hlog : (m <<< k).log2 = m.log2 + k := by
    rw [Nat.log2_eq_iff hpos, Nat.shiftLeft_eq, add_right_comm, pow_add, pow_add]
    exact ⟨Nat.mul_le_mul_right _ (Nat.log2_self_le hm.ne'),
      Nat.mul_lt_mul_of_pos_right Nat.lt_log2_self (by positivity)⟩
  unfold stepOf
  rw [hlog]
  push_cast
  congr 1
  omega

/-- A magnitude is rounded, whatever its exponent. -/
theorem nearestTo_round (s : Sign) {m : Nat} (hm : 0 < m) {e : Int}
    (hsmall : (m * 2 ^ e : ℚ) ≤ largestValue) :
    NearestTo (signed s (m * 2 ^ e)) (.round .binary64 s m e) := by
  unfold UnpackedFloat.round decreaseExponent
  simp only [targetExponent_binary64]
  generalize hk : (e - stepOf m e).toNat = k
  have he : e - k ≤ stepOf (m <<< k) (e - k) := by
    rw [stepOf_shiftLeft hm]
    omega
  rw [← magnitude_shiftLeft m k e] at hsmall ⊢
  exact nearestTo_roundWithAccuracy s rfl he hsmall

/-- An integer with an exponent is rounded. -/
theorem nearestTo_normalize (n : Int) (e : Int) (zeroSign : Sign)
    (hsmall : (|n| * 2 ^ e : ℚ) ≤ largestValue) :
    NearestTo (n * 2 ^ e) (.normalize .binary64 n e zeroSign) := by
  rw [UnpackedFloat.normalize]
  cases horder : compare n 0 with
  | lt =>
      have hlt := Int.compare_eq_lt.mp horder
      obtain ⟨m, rfl⟩ : ∃ m : Nat, n = -m := ⟨n.natAbs, by omega⟩
      have hround := nearestTo_round .negative (m := m) (e := e) (by omega) (by simpa using hsmall)
      have hvalue : ((-m : Int) * 2 ^ e : ℚ) = signed .negative (m * 2 ^ e) := by
        push_cast
        exact neg_mul _ _
      rw [hvalue]
      simpa using hround
  | eq =>
      obtain rfl : n = 0 := Int.compare_eq_eq.mp horder
      exact .of_eq trivial (by rw [Int.cast_zero, zero_mul]; rfl)
  | gt =>
      have hgt := Int.compare_eq_gt.mp horder
      obtain ⟨m, rfl⟩ : ∃ m : Nat, n = m := ⟨n.toNat, by omega⟩
      have hround := nearestTo_round .positive (m := m) (e := e) (by omega) (by simpa using hsmall)
      rw [Int.cast_natCast]
      exact hround

/-! ## Operations -/

theorem nearestTo_add {u v : UnpackedFloat} (hu : IsDouble u) (hv : IsDouble v)
    (hsmall : |unpackedValue u + unpackedValue v| ≤ largestValue) :
    NearestTo (unpackedValue u + unpackedValue v) (.add .binary64 u v) := by
  cases u with
  | notANumber => exact hu.elim
  | infinity s => exact hu.elim
  | zero s =>
      cases v with
      | notANumber => exact hv.elim
      | infinity t => exact hv.elim
      | zero t =>
          have hzero : (0 + 0 : ℚ) = 0 := add_zero 0
          cases s <;> cases t <;> exact .of_eq trivial hzero.symm
      | finite t n f hn => exact .of_eq hv (zero_add _).symm
  | finite s m e hm =>
      cases v with
      | notANumber => exact hv.elim
      | infinity t => exact hv.elim
      | zero t => exact .of_eq hu (add_zero _).symm
      | finite t n f hn =>
          have hsum : unpackedValue (.finite s m e hm) + unpackedValue (.finite t n f hn) =
              (s.apply (m <<< (e - min e f).toNat : Nat) +
                t.apply (n <<< (f - min e f).toNat : Nat) : Int) * 2 ^ min e f := by
            rw [unpackedValue, unpackedValue, signed_eq_apply_decreased s m (min_le_left e f),
              signed_eq_apply_decreased t n (min_le_right e f)]
            push_cast
            ring
          rw [hsum, abs_mul, abs_of_pos (zpow_pos two_pos _ : (0 : ℚ) < 2 ^ min e f)] at hsmall
          rw [hsum]
          exact nearestTo_normalize _ _ _ (by exact_mod_cast hsmall)

theorem signed_mul (s t : Sign) (a b : ℚ) : signed (s * t) (a * b) = signed s a * signed t b := by
  cases s <;> cases t
  · exact (neg_mul_neg a b).symm
  · exact (neg_mul a b).symm
  · exact (mul_neg a b).symm
  · rfl

/-- The product of two mantissas is long enough, or the exponents are as small as can be. -/
theorem le_stepOf_mul {m n : Nat} {e f : Int} (hmpos : 0 < m) (hnpos : 0 < n)
    (hm : Canonical m e) (hn : Canonical n f) : e + f ≤ stepOf (m * n) (e + f) := by
  have hlong : 2 ^ 52 ≤ m * n → 52 ≤ (m * n).log2 :=
    (Nat.le_log2 (Nat.mul_pos hmpos hnpos).ne').mpr
  unfold stepOf
  rcases hm.normal with hfull | he
  · have := hlong (hfull.trans (Nat.le_mul_of_pos_right m hnpos))
    omega
  · rcases hn.normal with hfull | hf
    · have := hlong (hfull.trans (Nat.le_mul_of_pos_left n hmpos))
      omega
    · omega

theorem nearestTo_mul {u v : UnpackedFloat} (hu : IsDouble u) (hv : IsDouble v)
    (hsmall : |unpackedValue u * unpackedValue v| ≤ largestValue) :
    NearestTo (unpackedValue u * unpackedValue v) (.mul .binary64 u v) := by
  cases u with
  | notANumber => exact hu.elim
  | infinity s => exact hu.elim
  | zero s =>
      cases v with
      | notANumber => exact hv.elim
      | infinity t => exact hv.elim
      | _ => exact .of_eq trivial (zero_mul _).symm
  | finite s m e hm =>
      cases v with
      | notANumber => exact hv.elim
      | infinity t => exact hv.elim
      | zero t => exact .of_eq trivial (mul_zero _).symm
      | finite t n f hn =>
          have hproduct : unpackedValue (.finite s m e hm) * unpackedValue (.finite t n f hn) =
              signed (s * t) ((m * n : Nat) * 2 ^ (e + f)) := by
            rw [unpackedValue, unpackedValue, ← signed_mul, zpow_add₀ two_ne_zero]
            congr 1
            push_cast
            ring
          rw [hproduct, abs_signed, abs_of_nonneg (by positivity)] at hsmall
          rw [hproduct]
          exact nearestTo_roundWithAccuracy _ rfl (le_stepOf_mul hm hn hu hv) hsmall

theorem signed_div (s t : Sign) (a b : ℚ) : signed (s / t) (a / b) = signed s a / signed t b := by
  cases s <;> cases t
  · exact (neg_div_neg_eq a b).symm
  · exact (neg_div b a).symm
  · exact (div_neg a).symm
  · rfl

/-- The remainder of a division says where the quotient lies. -/
theorem lies_div (m : Nat) {n : Nat} (hn : 0 < n) :
    Lies (m / n) (m / n) (accuracyOfFraction (m % n) n) := by
  have hpos : (0 : ℚ) < n := by exact_mod_cast hn
  have hrest : ((m % n : Nat) : ℚ) / n < 1 := by
    rw [div_lt_one hpos]
    exact_mod_cast Nat.mod_lt m hn
  rw [cast_div_eq m hn, accuracyOfFraction]
  split
  case isTrue hzero =>
    rw [hzero, Nat.cast_zero, zero_div]
    exact add_zero _
  case isFalse hne =>
    have hrest0 : (0 : ℚ) < (m % n : Nat) / n :=
      div_pos (by exact_mod_cast Nat.pos_of_ne_zero hne) hpos
    cases horder : compare (2 * (m % n)) n with
    | lt =>
        have hhalf := (div_lt_half_iff hn).mpr (Nat.compare_eq_lt.mp horder)
        exact ⟨by linarith, by linarith⟩
    | eq =>
        have heq := Nat.compare_eq_eq.mp horder
        have hhalf : ((m % n : Nat) : ℚ) / n = 1 / 2 :=
          le_antisymm (not_lt.mp ((half_lt_div_iff hn).not.mpr heq.not_gt))
            (not_lt.mp ((div_lt_half_iff hn).not.mpr heq.not_lt))
        rw [hhalf]
        rfl
    | gt =>
        have hhalf := (half_lt_div_iff hn).mpr (Nat.compare_eq_gt.mp horder)
        exact ⟨by linarith, by linarith⟩

/-- The quotient of two mantissas is made long enough before it is rounded. -/
theorem le_stepOf_div {m n : Nat} (hm : 0 < m) (hn : 0 < n) {e f t : Int}
    (ht : t = min (e - f)
      (Format.binary64.targetExponent (totalExponent m e - totalExponent n f))) :
    t ≤ stepOf (m <<< (e - f - t).toNat / n) t := by
  have htarget : Format.binary64.targetExponent (totalExponent m e - totalExponent n f) =
      max (m.log2 + 1 + e - (n.log2 + 1 + f) - 53) (-1074) := rfl
  rw [htarget] at ht
  rcases le_or_gt t (-1074) with hleast | hstep
  · exact hleast.trans (le_max_right _ _)
  · have hlong : n.log2 + 53 ≤ m.log2 + (e - f - t).toNat := by omega
    have hbits : 2 ^ 52 ≤ m <<< (e - f - t).toNat / n := by
      rw [Nat.le_div_iff_mul_le hn, Nat.shiftLeft_eq]
      calc 2 ^ 52 * n ≤ 2 ^ 52 * 2 ^ (n.log2 + 1) := Nat.mul_le_mul_left _ Nat.lt_log2_self.le
        _ = 2 ^ (n.log2 + 53) := by rw [← pow_add, add_comm 52, add_assoc]
        _ ≤ 2 ^ (m.log2 + (e - f - t).toNat) := Nat.pow_le_pow_right two_pos hlong
        _ ≤ m * 2 ^ (e - f - t).toNat := by
            rw [pow_add]
            exact Nat.mul_le_mul_right _ (Nat.log2_self_le hm.ne')
    have hlog : 52 ≤ (m <<< (e - f - t).toNat / n).log2 :=
      (Nat.le_log2 (by omega)).mpr hbits
    refine le_trans ?_ (le_max_left _ _)
    omega

/-- A quotient is rounded from where it lies. -/
theorem exists_div_eq (s t : Sign) {m n : Nat} (e f : Int) (hm : 0 < m) (hn : 0 < n) :
    ∃ (x : ℚ) (k : Nat) (g : Int) (a : Accuracy),
      UnpackedFloat.div .binary64 (.finite s m e hm) (.finite t n f hn) =
          roundWithAccuracy .binary64 (s / t) k g a ∧
        Lies x k a ∧ g ≤ stepOf k g ∧
          unpackedValue (.finite s m e hm) / unpackedValue (.finite t n f hn) =
            signed (s / t) (x * 2 ^ g) := by
  rw [UnpackedFloat.div, divCore]
  dsimp only
  generalize htarget : min (e - f)
    (Format.binary64.targetExponent (totalExponent m e - totalExponent n f)) = target
  generalize hshift : (e - f - target).toNat = shift
  have hle : target ≤ e - f := htarget ▸ min_le_left _ _
  have hpow : (2 ^ e / 2 ^ f : ℚ) = 2 ^ shift * 2 ^ target := by
    rw [← zpow_sub₀ two_ne_zero, two_zpow_eq hle, hshift]
  refine ⟨(m <<< shift : Nat) / n, _, target, _, rfl, lies_div _ hn, ?_, ?_⟩
  · rw [← hshift]
    exact le_stepOf_div hm hn htarget.symm
  · rw [unpackedValue, unpackedValue, ← signed_div, mul_div_mul_comm, hpow, Nat.shiftLeft_eq]
    congr 1
    push_cast
    ring

theorem nearestTo_div {u v : UnpackedFloat} (hu : IsDouble u) (hv : IsDouble v)
    (hv0 : unpackedValue v ≠ 0) (hsmall : |unpackedValue u / unpackedValue v| ≤ largestValue) :
    NearestTo (unpackedValue u / unpackedValue v) (.div .binary64 u v) := by
  cases u with
  | notANumber => exact hu.elim
  | infinity s => exact hu.elim
  | zero s =>
      cases v with
      | notANumber => exact hv.elim
      | infinity t => exact hv.elim
      | zero t => exact absurd rfl hv0
      | finite t n f hn => exact .of_eq trivial (zero_div _).symm
  | finite s m e hm =>
      cases v with
      | notANumber => exact hv.elim
      | infinity t => exact hv.elim
      | zero t => exact absurd rfl hv0
      | finite t n f hn =>
          obtain ⟨x, k, g, a, hdiv, hlies, hstep, hquotient⟩ := exists_div_eq s t e f hm hn
          rw [hquotient, abs_signed, abs_of_nonneg (hlies.magnitude_nonneg g)] at hsmall
          rw [hquotient, hdiv]
          exact nearestTo_roundWithAccuracy _ hlies hstep hsmall

/-! ## Overflow -/

theorem Lies.lt {x : ℚ} {m : Nat} {a : Accuracy} (h : Lies x m a) : x < m + 1 := by
  cases a with
  | exact =>
      rw [show x = m from h]
      linarith
  | inexact o =>
      cases o with
      | lt => exact h.2.trans (by linarith)
      | eq =>
          rw [show x = m + 1 / 2 from h]
          linarith
      | gt => exact h.2

/-- An exponent past the range is packed as that of an infinity. -/
theorem unpack_pack_of_large (s : Sign) {m : Nat} (hm : m ≠ 0) {e : Int} (he : 972 ≤ e) :
    (Float.Model.pack (ofMagnitude s m e)).unpack = .infinity s := by
  have hlarge : 2 ^ 11 ≤ (e + 1075).toNat + 1 := by omega
  change UnpackedFloat.unpack .binary64 (UnpackedFloat.pack .binary64 (ofMagnitude s m e)) = _
  rw [ofMagnitude, dif_neg hm, UnpackedFloat.pack]
  dsimp only
  rw [biased_exponent, if_pos hlarge]
  cases s <;> rfl

/-- A magnitude past the range is packed as an infinity. -/
theorem unpack_pack_roundWithAccuracy (s : Sign) {x : ℚ} {m : Nat} {e : Int} {a : Accuracy}
    (hx : Lies x m a) (he : e ≤ stepOf m e) (hlarge : 2 ^ (1024 : Int) ≤ x * 2 ^ e) :
    (Float.Model.pack (roundWithAccuracy .binary64 s m e a)).unpack = .infinity s := by
  have hlog : 1024 ≤ m.log2 + e := by
    have hpow : (2 : ℚ) ^ (1024 : Int) < 2 ^ (m.log2 + 1 + e : Int) := by
      have hbits : (m + 1 : ℚ) ≤ 2 ^ (m.log2 + 1 : Int) := by
        exact_mod_cast Nat.succ_le_of_lt (Nat.lt_log2_self (n := m))
      rw [zpow_add₀ two_ne_zero _ e]
      exact hlarge.trans_lt (mul_lt_mul_of_pos_right (hx.lt.trans_le hbits) (zpow_pos two_pos _))
    have := (zpow_lt_zpow_iff_right₀ one_lt_two).mp hpow
    omega
  have hstep : 972 ≤ stepOf m e := le_trans (by omega) (le_max_left _ _)
  have hfull := (roundedMantissa_spec hx he).2.2.resolve_left (by omega)
  rw [roundWithAccuracy_eq s a he]
  dsimp only
  generalize roundedMantissa m e a = r at hfull
  generalize hshift : (stepOf r (stepOf m e) - stepOf m e).toNat = shift
  have hne : r / 2 ^ shift ≠ 0 := by
    have hr : r ≠ 0 := by omega
    have hshort : shift ≤ r.log2 := by
      unfold stepOf at hshift hstep
      omega
    rw [Nat.div_ne_zero_iff]
    exact ⟨by positivity, (Nat.pow_le_pow_right two_pos hshort).trans (Nat.log2_self_le hr)⟩
  exact unpack_pack_of_large s hne (by omega)

/-- A quotient past the range is infinite. -/
theorem exists_unpack_div {x y : Float} (hx : x.isFinite = true) (hy : y.isFinite = true)
    (hy0 : exactValue y ≠ 0) (hlarge : 2 ^ (1024 : Int) ≤ |exactValue x / exactValue y|) :
    ∃ s, (x / y).toModel.unpack = .infinity s := by
  change ∃ s, (Float.Model.pack (.div .binary64 x.toModel.unpack y.toModel.unpack)).unpack =
    .infinity s
  have hu := isDouble_unpack hx
  have hv := isDouble_unpack hy
  rw [exactValue_eq] at hy0
  rw [exactValue_eq, exactValue_eq] at hlarge
  generalize x.toModel.unpack = u at *
  generalize y.toModel.unpack = v at *
  cases v with
  | notANumber => exact hv.elim
  | infinity t => exact hv.elim
  | zero t => exact absurd rfl hy0
  | finite t n f hn =>
      cases u with
      | notANumber => exact hu.elim
      | infinity s => exact hu.elim
      | zero s =>
          have hzero : |(0 : ℚ) / unpackedValue (.finite t n f hn)| = 0 := by simp
          have hpow : (0 : ℚ) < 2 ^ (1024 : Int) := zpow_pos two_pos _
          exact absurd (hpow.trans_le hlarge) hzero.not_gt
      | finite s m e hm =>
          obtain ⟨q, k, g, a, hdiv, hlies, hstep, hquotient⟩ := exists_div_eq s t e f hm hn
          rw [hquotient, abs_signed, abs_of_nonneg (hlies.magnitude_nonneg g)] at hlarge
          exact ⟨s / t, by rw [hdiv, unpack_pack_roundWithAccuracy _ hlies hstep hlarge]⟩

/-! ## Doubles -/

/-- A finite double such that no other is nearer to the value `q`. -/
structure IsNearest (q : ℚ) (x : Float) : Prop where
  isFinite : x.isFinite = true
  nearest : ∀ y : Float, y.isFinite = true → |exactValue x - q| ≤ |exactValue y - q|
  error_le : |exactValue x - q| ≤ |q| / 2 ^ 53 + halfLeast

theorem NearestTo.isNearest {q : ℚ} {u : UnpackedFloat} (h : NearestTo q u) {x : Float}
    (hx : x.toModel = Float.Model.pack u) : IsNearest q x := by
  have hunpack : x.toModel.unpack = u := by rw [hx, unpack_pack h.isDouble]
  refine ⟨?_, fun y hy => ?_, ?_⟩
  · change x.toModel.unpack.isFinite = true
    rw [hunpack]
    exact h.isDouble.isFinite
  · rw [exactValue_eq, exactValue_eq, hunpack]
    exact h.nearest _ (isDouble_unpack hy)
  · rw [exactValue_eq, hunpack]
    exact h.error_le

namespace IsNearest

variable {q : ℚ} {x y : Float}

/-- Rounding does not go past a double. -/
theorem le_of_le (h : IsNearest q x) (hy : y.isFinite = true) (hq : q ≤ exactValue y) :
    exactValue x ≤ exactValue y := by
  by_contra hlt
  have hnearest := h.nearest y hy
  rw [abs_of_nonneg (by linarith), abs_of_nonneg (by linarith)] at hnearest
  linarith

theorem le_magnitude (h : IsNearest q x) {m : Nat} {e : Int} (hm : m < 2 ^ 53)
    (hlow : -1074 ≤ e) (hhigh : e ≤ 971) (hq : q ≤ m * 2 ^ e) : exactValue x ≤ m * 2 ^ e := by
  obtain ⟨y, hy, hvalue⟩ := exists_exactValue hm hlow hhigh
  rw [← hvalue] at hq ⊢
  exact h.le_of_le hy hq

theorem ge_of_ge (h : IsNearest q x) (hy : y.isFinite = true) (hq : exactValue y ≤ q) :
    exactValue y ≤ exactValue x := by
  by_contra hlt
  have hnearest := h.nearest y hy
  rw [abs_of_nonpos (by linarith), abs_of_nonpos (by linarith)] at hnearest
  linarith

/-- The value of a double is not rounded. -/
theorem eq_of_eq (h : IsNearest q x) (hy : y.isFinite = true) (hq : q = exactValue y) :
    exactValue x = exactValue y :=
  le_antisymm (h.le_of_le hy hq.le) (h.ge_of_ge hy hq.ge)

theorem nonneg (h : IsNearest q x) (hq : 0 ≤ q) : 0 ≤ exactValue x := by
  rw [← exactValue_zero] at hq ⊢
  exact h.ge_of_ge (by decide +kernel) hq

/-- Rounding makes a magnitude larger by a small part of it, or of the least double. -/
theorem le_of_nonneg (h : IsNearest q x) (hq : 0 ≤ q) :
    exactValue x ≤ 17 / 16 * q + halfLeast := by
  have herror := (abs_le.mp h.error_le).2
  rw [abs_of_nonneg hq] at herror
  have hpart : q / 2 ^ 53 ≤ q / 16 := div_le_div_of_nonneg_left hq (by norm_num) (by norm_num)
  linarith

end IsNearest

variable {x y : Float}

/-- **A sum is rounded once.** -/
theorem isNearest_add (hx : x.isFinite = true) (hy : y.isFinite = true)
    (hsmall : |exactValue x + exactValue y| ≤ largestValue) :
    IsNearest (exactValue x + exactValue y) (x + y) := by
  rw [exactValue_eq, exactValue_eq] at hsmall ⊢
  exact (nearestTo_add (isDouble_unpack hx) (isDouble_unpack hy) hsmall).isNearest rfl

/-- **A product is rounded once.** -/
theorem isNearest_mul (hx : x.isFinite = true) (hy : y.isFinite = true)
    (hsmall : |exactValue x * exactValue y| ≤ largestValue) :
    IsNearest (exactValue x * exactValue y) (x * y) := by
  rw [exactValue_eq, exactValue_eq] at hsmall ⊢
  exact (nearestTo_mul (isDouble_unpack hx) (isDouble_unpack hy) hsmall).isNearest rfl

/-- **A quotient is rounded once.** -/
theorem isNearest_div (hx : x.isFinite = true) (hy : y.isFinite = true) (hy0 : exactValue y ≠ 0)
    (hsmall : |exactValue x / exactValue y| ≤ largestValue) :
    IsNearest (exactValue x / exactValue y) (x / y) := by
  rw [exactValue_eq, exactValue_eq] at hsmall ⊢
  rw [exactValue_eq] at hy0
  exact (nearestTo_div (isDouble_unpack hx) (isDouble_unpack hy) hy0 hsmall).isNearest rfl

/-- A whole number is rounded once, and not at all up to 53 bits. -/
theorem isNearest_normalize {n : Nat} (hn : n < 2 ^ 64) {x : Float}
    (hx : x.toModel = Float.Model.pack (.normalize .binary64 n 0 .positive)) :
    IsNearest n x ∧ (n < 2 ^ 53 → exactValue x = n) := by
  have hsmall : (|(n : Int)| * 2 ^ (0 : Int) : ℚ) ≤ largestValue := by
    rw [Nat.abs_cast, Int.cast_natCast, zpow_zero, mul_one]
    have hsize : n ≤ 2 ^ 100 := hn.le.trans (by decide)
    exact le_trans (by exact_mod_cast hsize) two_pow_le_largestValue
  have hnormalize := nearestTo_normalize n 0 .positive hsmall
  rw [Int.cast_natCast, zpow_zero, mul_one] at hnormalize
  have hnearest := hnormalize.isNearest hx
  refine ⟨hnearest, fun hshort => ?_⟩
  obtain ⟨y, hy, hvalue⟩ := exists_exactValue (e := 0) hshort (by decide) (by decide)
  rw [zpow_zero, mul_one] at hvalue
  rw [hnearest.eq_of_eq hy hvalue.symm, hvalue]

/-- **A whole number of 64 bits is rounded once.** -/
theorem isNearest_toFloat (n : UInt64) : IsNearest n.toNat n.toFloat :=
  (isNearest_normalize n.toNat_lt rfl).1

/-- **A whole number of 32 bits is a double.** -/
theorem exactValue_toFloat (n : UInt32) :
    n.toFloat.isFinite = true ∧ exactValue n.toFloat = n.toNat := by
  have hlt := n.toNat_lt
  obtain ⟨hnearest, hexact⟩ := isNearest_normalize (n := n.toNat) (x := n.toFloat) (by omega) rfl
  exact ⟨hnearest.isFinite, hexact (by omega)⟩

end StepScript
