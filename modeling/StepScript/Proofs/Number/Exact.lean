import StepScript.Number.Rounding
import StepScript.Proofs.Number.Order
set_option autoImplicit false

/-!
# Numbers: exact values

A finite double stands for a rational number.  Its mantissa has at most 53 bits, and fewer only with
the least exponent, so the reading of a double is unique and the order of doubles is that of their
values.

Main statements: `float_le_iff_exactValue`, `float_lt_iff_exactValue` and `nearestInt?_eq`, by which
a coordinate is rounded from its exact value.
-/

namespace StepScript

open Float.Model Float.Model.UnpackedFloat

/-! ## Values -/

/-- The rational number that a reading stands for, zero for what is not finite. -/
def Binary64.value : Binary64 → ℚ
  | .finite negative mantissa exponent =>
      if negative then -(mantissa * 2 ^ exponent) else mantissa * 2 ^ exponent
  | _ => 0

/-- The rational number that a double stands for, zero for what is not finite. -/
def exactValue (x : Float) : ℚ := (Binary64.ofFloat x).value

/-- A magnitude with a sign. -/
def signed : Sign → ℚ → ℚ
  | .negative, q => -q
  | .positive, q => q

/-- The value of an unpacked double. -/
def unpackedValue : UnpackedFloat → ℚ
  | .finite s m e _ => signed s (m * 2 ^ e)
  | _ => 0

theorem exactValue_eq (x : Float) : exactValue x = unpackedValue x.toModel.unpack := by
  unfold exactValue Binary64.ofFloat
  cases x.toModel.unpack with
  | finite s m e hm =>
      cases s <;> simp [Binary64.value, Binary64.isNegativeSign, unpackedValue, signed]
  | zero s => simp [Binary64.value, unpackedValue]
  | _ => rfl

/-- A power of two is a natural power times a smaller one. -/
theorem two_zpow_eq {e f : Int} (h : f ≤ e) : (2 ^ e : ℚ) = 2 ^ (e - f).toNat * 2 ^ f := by
  rw [← zpow_natCast, ← zpow_add₀ two_ne_zero]
  congr 1
  omega

/-- With a smaller exponent the mantissa is longer. -/
theorem magnitude_eq_shiftLeft (m : Nat) {e f : Int} (h : f ≤ e) :
    (m * 2 ^ e : ℚ) = (m <<< (e - f).toNat : Nat) * 2 ^ f := by
  rw [two_zpow_eq h, Nat.shiftLeft_eq]
  push_cast
  ring

theorem magnitude_shiftLeft (m k : Nat) (e : Int) :
    ((m <<< k : Nat) * 2 ^ (e - k) : ℚ) = m * 2 ^ e := by
  have hshift := magnitude_eq_shiftLeft m (show e - k ≤ e by omega)
  rw [sub_sub_cancel, Int.toNat_natCast] at hshift
  exact hshift.symm

/-! ## The form of a double -/

/-- Mantissa and exponent of a double that is not zero. -/
structure Canonical (m : Nat) (e : Int) : Prop where
  mantissa_lt : m < 2 ^ 53
  exponent_ge : -1074 ≤ e
  exponent_le : e ≤ 971
  /-- Only with the least exponent does the mantissa have fewer than 53 bits. -/
  normal : 2 ^ 52 ≤ m ∨ e = -1074

/-- An unpacked double that is finite. -/
def IsDouble : UnpackedFloat → Prop
  | .finite _ m e _ => Canonical m e
  | .zero _ => True
  | _ => False

theorem IsDouble.isFinite {u : UnpackedFloat} (h : IsDouble u) : u.isFinite = true := by
  cases u with
  | notANumber => exact h.elim
  | infinity s => exact h.elim
  | _ => rfl

theorem IsDouble.neg {u : UnpackedFloat} (h : IsDouble u) : IsDouble u.neg := by
  cases u <;> exact h

theorem biased_exponent (e : Int) : (e + Format.exponentBias .binary64 +
    Format.mantissaBitsWithoutImplicit .binary64 : Int) = e + 1075 := by
  change e + 1023 + 52 = e + 1075
  omega

theorem exponent_bias : (Format.exponentBias .binary64 +
    Format.mantissaBitsWithoutImplicit .binary64 : Int) = 1075 := rfl

/-- The significand with its leading bit. -/
theorem toNat_leading_append (m : BitVec 52) : (1#1 ++ m).toNat = 2 ^ 52 + m.toNat := by
  rw [BitVec.toNat_append, ← Nat.shiftLeft_add_eq_or_of_lt m.isLt]
  rfl

/-- What a pattern of bits stands for is not finite or of this form. -/
theorem isDouble_of_unpack (bits : BitVec Format.binary64.numBits)
    (h : (UnpackedFloat.unpack .binary64 bits).isFinite = true) :
    IsDouble (.unpack .binary64 bits) := by
  have hmantissa : (unpackMantissa bits).toNat < 2 ^ 52 := (unpackMantissa bits).isLt
  have hexponent : (unpackExponent bits).toNat < 2 ^ 11 := (unpackExponent bits).isLt
  unfold UnpackedFloat.unpack at h ⊢
  dsimp only at h ⊢
  rw [exponent_bias]
  split
  case isTrue hlargest =>
    rw [if_pos hlargest] at h
    split at h
    · cases h
    · cases h
  case isFalse hlargest =>
    have hbelow : (unpackExponent bits).toNat ≠ 2 ^ 11 - 1 := fun heq =>
      hlargest (BitVec.eq_of_toNat_eq heq)
    split
    case isTrue hleast =>
      split
      case isTrue => trivial
      case isFalse =>
        rw [hleast]
        exact ⟨by omega, by decide, by decide, .inr (by decide)⟩
    case isFalse hleast =>
      have habove : (unpackExponent bits).toNat ≠ 0 := fun heq =>
        hleast (BitVec.eq_of_toNat_eq heq)
      have hvalue := toNat_leading_append (unpackMantissa bits)
      refine ⟨?_, by omega, by omega, .inl ?_⟩
      · rw [hvalue]
        omega
      · rw [hvalue]
        omega

theorem isDouble_unpack {x : Float} (h : x.isFinite = true) : IsDouble x.toModel.unpack :=
  isDouble_of_unpack _ h

/-- The parts of a packed double are read back. -/
theorem unpack_components (s : Sign) (e : BitVec Format.binary64.exponentBits)
    (m : BitVec Format.binary64.mantissaBitsWithoutImplicit) (hlargest : e ≠ -1#_) :
    UnpackedFloat.unpack .binary64 (packComponents .binary64 s e m) =
      if e = 0#_ then
        if h : m = 0#_ then .zero s
        else .finite s m.toNat (-1074) (by simpa [BitVec.toNat_pos, BitVec.pos_iff_ne_zero])
      else .finite s (2 ^ 52 + m.toNat) (e.toNat - 1075) (by omega) := by
  have hsign : Sign.ofBitVec (unpackSign (packComponents .binary64 s e m)) = s := by
    rw [unpackSign_packComponents]
    cases s <;> rfl
  simp only [UnpackedFloat.unpack, unpackExponent_packComponents, unpackMantissa_packComponents,
    hsign, if_neg hlargest]
  split
  case isTrue hleast =>
    subst hleast
    rfl
  case isFalse =>
    simp only [toNat_leading_append]
    rfl

/-- A finite double survives packing. -/
theorem unpack_pack {u : UnpackedFloat} (h : IsDouble u) : (Float.Model.pack u).unpack = u := by
  change UnpackedFloat.unpack .binary64 (UnpackedFloat.pack .binary64 u) = u
  cases u with
  | notANumber => exact h.elim
  | infinity s => exact h.elim
  | zero s => cases s <;> rfl
  | finite s m e hm =>
      obtain ⟨hlt, hge, hle, hnormal⟩ := h
      have hfits : ¬2 ^ 11 ≤ (e + 1075).toNat + 1 := by omega
      have hlog : m.log2 + 1 = Format.binary64.mantissaBits ↔ 2 ^ 52 ≤ m := by
        change m.log2 + 1 = 53 ↔ 2 ^ 52 ≤ m
        have hfloor := Nat.log2_eq_iff (n := m) (k := 52) (by omega)
        omega
      rw [UnpackedFloat.pack]
      dsimp only
      rw [biased_exponent, if_neg hfits]
      by_cases hfull : 2 ^ 52 ≤ m
      · have hbits : (BitVec.ofNat 11 (e + 1075).toNat).toNat = (e + 1075).toNat := by
          rw [BitVec.toNat_ofNat, Nat.mod_eq_of_lt (by omega)]
        have hrest : (BitVec.ofNat 52 m).toNat = m - 2 ^ 52 := by
          rw [BitVec.toNat_ofNat]
          omega
        rw [if_pos (hlog.mpr hfull), unpack_components, if_neg]
        · congr 1
          · omega
          · omega
        · intro hzero
          have hnat : (BitVec.ofNat 11 (e + 1075).toNat).toNat = 0 := by rw [hzero]; rfl
          omega
        · intro hones
          have hnat : (BitVec.ofNat 11 (e + 1075).toNat).toNat = 2 ^ 11 - 1 := by rw [hones]; rfl
          omega
      · obtain rfl : e = -1074 := hnormal.resolve_left hfull
        have hbits : (BitVec.ofNat 52 m).toNat = m := by
          rw [BitVec.toNat_ofNat, Nat.mod_eq_of_lt (by omega)]
        have hne : BitVec.ofNat 52 m ≠ 0#52 := fun hzero => by
          have hnat : (BitVec.ofNat 52 m).toNat = 0 := by rw [hzero]; rfl
          omega
        rw [if_neg (hlog.not.mpr hfull), unpack_components _ _ _ (by decide), if_pos rfl,
          dif_neg hne]
        congr 1

/-- A mantissa of at most 53 bits and an exponent in the range of doubles are those of a double. -/
theorem exists_exactValue {m : Nat} {e : Int} (hm : m < 2 ^ 53) (hlow : -1074 ≤ e)
    (hhigh : e ≤ 971) : ∃ x : Float, x.isFinite = true ∧ exactValue x = m * 2 ^ e := by
  have hdouble : ∀ u, IsDouble u →
      (Float.ofModel (.pack u)).isFinite = true ∧
        exactValue (Float.ofModel (.pack u)) = unpackedValue u := fun u hu => by
    have hunpack : (Float.ofModel (.pack u)).toModel.unpack = u := unpack_pack hu
    rw [exactValue_eq, hunpack]
    refine ⟨?_, rfl⟩
    change (Float.ofModel (.pack u)).toModel.unpack.isFinite = true
    rw [hunpack]
    exact hu.isFinite
  rcases Nat.eq_zero_or_pos m with rfl | hpos
  · obtain ⟨hfinite, hvalue⟩ := hdouble (.zero .positive) trivial
    exact ⟨_, hfinite, hvalue.trans (by simp [unpackedValue])⟩
  · -- The mantissa is made as long as it may be.
    obtain ⟨k, hk⟩ : ∃ k, k = min (52 - m.log2) (e + 1074).toNat := ⟨_, rfl⟩
    have hlog : m.log2 ≤ 52 := Nat.lt_succ_iff.mp ((Nat.log2_lt hpos.ne').mpr hm)
    have hcanonical : Canonical (m * 2 ^ k) (e - k) := by
      refine ⟨?_, by omega, by omega, ?_⟩
      · calc m * 2 ^ k < 2 ^ (m.log2 + 1) * 2 ^ k :=
              Nat.mul_lt_mul_of_pos_right Nat.lt_log2_self (by positivity)
          _ ≤ 2 ^ 53 := by
              rw [← pow_add]
              exact Nat.pow_le_pow_right two_pos (by omega)
      · by_cases hfull : m.log2 + k = 52
        · left
          rw [← hfull, pow_add]
          exact Nat.mul_le_mul_right _ (Nat.log2_self_le hpos.ne')
        · right
          omega
    obtain ⟨hfinite, hvalue⟩ := hdouble (.finite .positive (m * 2 ^ k) (e - k) (by positivity))
      hcanonical
    refine ⟨_, hfinite, hvalue.trans ?_⟩
    change ((m * 2 ^ k : Nat) * 2 ^ (e - k) : ℚ) = m * 2 ^ e
    rw [← Nat.shiftLeft_eq]
    exact magnitude_shiftLeft m k e

/-! ## Order -/

theorem magnitude_pos {m : Nat} (hm : 0 < m) (e : Int) : (0 : ℚ) < m * 2 ^ e := by positivity

/-- Of two doubles the one with the larger exponent has the larger magnitude. -/
theorem magnitude_lt_of_exponent_lt {m n : Nat} {e f : Int} (hm : Canonical m e)
    (hn : Canonical n f) (h : e < f) : (m * 2 ^ e : ℚ) < n * 2 ^ f := by
  have hfull : 2 ^ 52 ≤ n := hn.normal.resolve_right (by have := hm.exponent_ge; omega)
  calc (m * 2 ^ e : ℚ) < 2 ^ 53 * 2 ^ e := by
        have := hm.mantissa_lt
        gcongr
        exact_mod_cast this
    _ = 2 ^ 52 * 2 ^ (e + 1) := by
        rw [zpow_add_one₀ two_ne_zero]
        ring
    _ ≤ n * 2 ^ f := by
        gcongr
        · exact_mod_cast hfull
        · exact one_le_two
        · omega

/-- Doubles compare by exponent, and then by mantissa, as their magnitudes do. -/
theorem compare_magnitude {m n : Nat} {e f : Int} (hm : Canonical m e) (hn : Canonical n f) :
    (compare e f).then (compare m n) = compare (m * 2 ^ e : ℚ) (n * 2 ^ f) := by
  symm
  rcases lt_trichotomy e f with h | rfl | h
  · rw [compare_lt_iff_lt.mpr h, compare_lt_iff_lt.mpr (magnitude_lt_of_exponent_lt hm hn h)]
    rfl
  · rw [compare_eq_iff_eq.mpr rfl, Ordering.eq_then]
    have hpow : (0 : ℚ) < 2 ^ e := by positivity
    rcases lt_trichotomy m n with hmn | rfl | hmn
    · rw [compare_lt_iff_lt.mpr hmn, compare_lt_iff_lt]
      gcongr
    · rw [compare_eq_iff_eq.mpr rfl, compare_eq_iff_eq.mpr rfl]
    · rw [compare_gt_iff_gt.mpr hmn, compare_gt_iff_gt]
      gcongr
  · rw [compare_gt_iff_gt.mpr h, compare_gt_iff_gt.mpr (magnitude_lt_of_exponent_lt hn hm h)]
    rfl

theorem compare_neg_neg (a b : ℚ) : (compare a b).swap = compare (-a) (-b) := by
  rcases lt_trichotomy a b with h | rfl | h
  · rw [compare_lt_iff_lt.mpr h, compare_gt_iff_gt.mpr (neg_lt_neg h)]
    rfl
  · rw [compare_eq_iff_eq.mpr rfl, compare_eq_iff_eq.mpr rfl]
    rfl
  · rw [compare_gt_iff_gt.mpr h, compare_lt_iff_lt.mpr (neg_lt_neg h)]
    rfl

/-- **The order of finite doubles is that of their values.** -/
theorem compare_eq_compare_value {u v : UnpackedFloat} (hu : IsDouble u) (hv : IsDouble v) :
    u.compare v = some (compare (unpackedValue u) (unpackedValue v)) := by
  cases u with
  | notANumber => exact hu.elim
  | infinity s => exact hu.elim
  | zero s =>
      cases v with
      | notANumber => exact hv.elim
      | infinity t => exact hv.elim
      | zero t => exact congrArg some (compare_eq_iff_eq.mpr rfl).symm
      | finite t n f hn =>
          have hpos := magnitude_pos hn f
          cases t with
          | positive => exact congrArg some (compare_lt_iff_lt.mpr hpos).symm
          | negative => exact congrArg some (compare_gt_iff_gt.mpr (neg_neg_of_pos hpos)).symm
  | finite s m e hm =>
      have hmpos := magnitude_pos hm e
      cases v with
      | notANumber => exact hv.elim
      | infinity t => exact hv.elim
      | zero t =>
          cases s with
          | positive => exact congrArg some (compare_gt_iff_gt.mpr hmpos).symm
          | negative => exact congrArg some (compare_lt_iff_lt.mpr (neg_neg_of_pos hmpos)).symm
      | finite t n f hn =>
          have hnpos := magnitude_pos hn f
          have hsize := compare_magnitude hu hv
          cases s with
          | positive =>
              cases t with
              | positive => exact congrArg some hsize
              | negative =>
                  exact congrArg some (compare_gt_iff_gt.mpr
                    ((neg_neg_of_pos hnpos).trans hmpos)).symm
          | negative =>
              cases t with
              | positive =>
                  exact congrArg some (compare_lt_iff_lt.mpr
                    ((neg_neg_of_pos hmpos).trans hnpos)).symm
              | negative =>
                  change some ((compare e f).then (compare m n)).swap = some (compare _ _)
                  rw [hsize, compare_neg_neg]
                  rfl

theorem float_le_iff_exactValue {x y : Float} (hx : x.isFinite = true) (hy : y.isFinite = true) :
    x ≤ y ↔ exactValue x ≤ exactValue y := by
  rw [float_le_iff, compare_eq_compare_value (isDouble_unpack hx) (isDouble_unpack hy),
    ← exactValue_eq, ← exactValue_eq]
  change (compare _ _).isLE = true ↔ _
  rw [Ordering.isLE_iff_ne_gt, ← compare_le_iff_le]

theorem float_lt_iff_exactValue {x y : Float} (hx : x.isFinite = true) (hy : y.isFinite = true) :
    x < y ↔ exactValue x < exactValue y := by
  rw [float_lt_iff, compare_eq_compare_value (isDouble_unpack hx) (isDouble_unpack hy),
    ← exactValue_eq, ← exactValue_eq, Option.some_inj, compare_lt_iff_lt]

theorem exactValue_zero : exactValue 0.0 = 0 := by
  have hread : Binary64.ofFloat 0.0 = .finite false 0 0 := by decide +kernel
  rw [exactValue, hread]
  norm_num [Binary64.value]

theorem exactValue_one : exactValue 1.0 = 1 := by
  have hread : Binary64.ofFloat 1.0 = .finite false (2 ^ 52) (-52) := by decide +kernel
  rw [exactValue, hread]
  norm_num [Binary64.value]

theorem zero_lt_iff_exactValue {x : Float} (hx : x.isFinite = true) :
    0.0 < x ↔ 0 < exactValue x := by
  rw [float_lt_iff_exactValue (by decide +kernel) hx, exactValue_zero]

/-! ## Opposites -/

theorem unpackedValue_neg (u : UnpackedFloat) : unpackedValue u.neg = -unpackedValue u := by
  cases u with
  | finite s m e hm => cases s <;> simp [UnpackedFloat.neg, unpackedValue, signed]
  | _ => exact neg_zero.symm

theorem unpack_neg {x : Float} (hx : x.isFinite = true) :
    (-x).toModel.unpack = x.toModel.unpack.neg :=
  unpack_pack (isDouble_unpack hx).neg

theorem isFinite_neg {x : Float} (hx : x.isFinite = true) : (-x).isFinite = true := by
  change (-x).toModel.unpack.isFinite = true
  rw [unpack_neg hx]
  exact (isDouble_unpack hx).neg.isFinite

theorem exactValue_neg {x : Float} (hx : x.isFinite = true) : exactValue (-x) = -exactValue x := by
  rw [exactValue_eq, exactValue_eq, unpack_neg hx, unpackedValue_neg]

/-! ## The nearest integer -/

theorem quotient_value (m : Nat) (e : Int) :
    ((Binary64.quotient m e).1 / (Binary64.quotient m e).2 : ℚ) = m * 2 ^ e := by
  cases e with
  | ofNat k => simp [Binary64.quotient, Nat.shiftLeft_eq]
  | negSucc k =>
      rw [Binary64.quotient, Nat.one_shiftLeft, zpow_negSucc]
      push_cast
      rw [div_eq_mul_inv]

/-- A quotient is its whole part and the rest. -/
theorem cast_div_eq (num : Nat) {den : Nat} (hden : 0 < den) :
    (num / den : ℚ) = (num / den : Nat) + (num % den : Nat) / den := by
  have hne : (den : ℚ) ≠ 0 := by positivity
  rw [div_eq_iff hne, add_mul, div_mul_cancel₀ _ hne]
  exact_mod_cast (Nat.div_add_mod' num den).symm

theorem div_lt_half_iff {r den : Nat} (hden : 0 < den) :
    (r / den : ℚ) < 1 / 2 ↔ 2 * r < den := by
  rw [div_lt_div_iff₀ (by positivity) two_pos, one_mul, mul_comm]
  exact_mod_cast Iff.rfl

theorem half_lt_div_iff {r den : Nat} (hden : 0 < den) :
    1 / 2 < (r / den : ℚ) ↔ den < 2 * r := by
  rw [div_lt_div_iff₀ two_pos (by positivity), one_mul, mul_comm]
  exact_mod_cast Iff.rfl

/-- The nearest natural number is above by half at most. -/
theorem roundDiv_le (tie : Tie) (num : Nat) {den : Nat} (hden : 0 < den) :
    (roundDiv tie num den : ℚ) ≤ num / den + 1 / 2 := by
  have hrest0 : (0 : ℚ) ≤ (num % den : Nat) / den := by positivity
  rw [cast_div_eq num hden]
  rcases Nat.lt_or_ge (2 * (num % den)) den with hlow | hhigh
  · rw [roundDiv_of_lt hlow]
    linarith
  · have hhalf := not_lt.mp ((div_lt_half_iff hden).not.mpr hhigh.not_gt)
    have hup : roundDiv tie num den ≤ num / den + 1 := by
      unfold roundDiv
      dsimp only
      split_ifs <;> omega
    have hcast : (roundDiv tie num den : ℚ) ≤ (num / den : Nat) + 1 := by exact_mod_cast hup
    linarith

/-- A tie away from zero makes the nearest natural number the floor of half more. -/
theorem roundDiv_away (num : Nat) {den : Nat} (hden : 0 < den) :
    (roundDiv .away num den : Int) = ⌊(num / den + 1 / 2 : ℚ)⌋ := by
  have hpos : (0 : ℚ) < den := by exact_mod_cast hden
  have hrest : ((num % den : Nat) : ℚ) / den < 1 := by
    rw [div_lt_one hpos]
    exact_mod_cast Nat.mod_lt num hden
  have hrest0 : (0 : ℚ) ≤ (num % den : Nat) / den := by positivity
  symm
  rw [Int.floor_eq_iff, cast_div_eq num hden]
  rcases Nat.lt_or_ge (2 * (num % den)) den with hlow | hhigh
  · have hhalf := (div_lt_half_iff hden).mpr hlow
    rw [roundDiv_of_lt hlow, Int.cast_natCast]
    constructor <;> linarith
  · have hhalf := not_lt.mp ((div_lt_half_iff hden).not.mpr hhigh.not_gt)
    have hup : roundDiv .away num den = num / den + 1 := by
      rcases hhigh.lt_or_eq with hgt | heq
      · exact roundDiv_of_gt hgt
      · rw [roundDiv_of_tie heq.symm]
        rfl
    rw [hup, Int.cast_natCast, Nat.cast_add_one]
    constructor <;> linarith

/-- The integer nearest to a rational number, a tie going away from zero. -/
def roundAway (q : ℚ) : Int := if 0 ≤ q then ⌊q + 1 / 2⌋ else -⌊-q + 1 / 2⌋

theorem roundAway_of_nonneg {q : ℚ} (h : 0 ≤ q) : roundAway q = ⌊q + 1 / 2⌋ := if_pos h

theorem roundAway_neg (q : ℚ) : roundAway (-q) = -roundAway q := by
  rcases lt_trichotomy q 0 with h | rfl | h
  · rw [roundAway, roundAway, if_pos (neg_nonneg.mpr h.le), if_neg h.not_ge, neg_neg]
  · rw [neg_zero, roundAway_of_nonneg le_rfl]
    norm_num
  · rw [roundAway, roundAway, if_neg (neg_neg_of_pos h).not_ge, if_pos h.le, neg_neg]

/-- A finite double is read as a sign, a mantissa and an exponent. -/
theorem ofFloat_of_isFinite {x : Float} (hx : x.isFinite = true) :
    ∃ negative m e, Binary64.ofFloat x = .finite negative m e := by
  change x.toModel.unpack.isFinite = true at hx
  unfold Binary64.ofFloat
  cases hu : x.toModel.unpack with
  | notANumber => rw [hu] at hx; cases hx
  | infinity s => rw [hu] at hx; cases hx
  | zero s => exact ⟨_, _, _, rfl⟩
  | finite s m e hm => exact ⟨_, _, _, rfl⟩

/-- **A finite double is rounded from its exact value.** -/
theorem nearestInt?_eq {x : Float} (hx : x.isFinite = true) :
    nearestInt? x = some (roundAway (exactValue x)) := by
  obtain ⟨negative, m, e, hread⟩ := ofFloat_of_isFinite hx
  have hmagnitude : roundAway (m * 2 ^ e) = roundDiv .away (Binary64.quotient m e).1
      (Binary64.quotient m e).2 := by
    rw [roundAway_of_nonneg (by positivity), roundDiv_away _ (Binary64.quotient_snd_pos m e),
      quotient_value]
  unfold nearestInt? exactValue
  rw [hread]
  cases negative with
  | false => exact congrArg some hmagnitude.symm
  | true =>
      change some (-_) = some (roundAway (-(m * 2 ^ e)))
      rw [roundAway_neg, hmagnitude]

end StepScript
