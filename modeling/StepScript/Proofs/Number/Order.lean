import Mathlib
set_option autoImplicit false

/-!
# Numbers: the order of doubles

A comparison with what is not a number fails, and among numbers the order is total: of two of them
one is below the other or they are equal, zeros of either sign included.  Signs are kept by the
operations and by rounding, so what is not below zero stays so.

Main statements: `float_le_of_not_lt`, by which a number that is not refused by a bound keeps it;
`neg_le_zero` and `zero_le_add`, for the ends of a tolerant range.
-/

namespace StepScript

open Float.Model Float.Model.UnpackedFloat

/-! ## Comparisons -/

theorem float_le_iff (x y : Float) :
    x ≤ y ↔ (x.toModel.unpack.compare y.toModel.unpack).any Ordering.isLE = true := by
  change Float.le x y = true ↔ _
  rw [Float.le, decide_eq_true_eq]
  rfl

theorem float_lt_iff (x y : Float) :
    x < y ↔ x.toModel.unpack.compare y.toModel.unpack = some .lt := by
  change Float.lt x y = true ↔ _
  rw [Float.lt, decide_eq_true_eq]
  change (x.toModel.unpack.compare y.toModel.unpack == some .lt) = true ↔ _
  rw [beq_iff_eq]

/-- Compared the other way round, two doubles give the opposite. -/
theorem compare_swap (u v : UnpackedFloat) : v.compare u = (u.compare v).map Ordering.swap := by
  have hsigns : ∀ s t : Sign, compare t s = (compare s t).swap := by
    intro s t
    cases s <;> cases t <;> rfl
  have hsizes : ∀ (m n : Nat) (e f : Int), (compare f e).then (compare n m) =
      ((compare e f).then (compare m n)).swap := by
    intro m n e f
    rw [Ordering.swap_then, ← Std.OrientedCmp.eq_swap, ← Std.OrientedCmp.eq_swap]
  cases u with
  | notANumber => cases v <;> rfl
  | infinity s =>
      cases v with
      | infinity t => exact congrArg some (hsigns s t)
      | _ => cases s <;> rfl
  | zero s =>
      cases v with
      | finite t n f hn => cases t <;> rfl
      | infinity t => cases t <;> rfl
      | _ => rfl
  | finite s m e hm =>
      cases v with
      | notANumber => cases s <;> rfl
      | infinity t => cases s <;> cases t <;> rfl
      | zero t => cases s <;> rfl
      | finite t n f hn =>
          have hsize := hsizes m n e f
          cases s with
          | positive =>
              cases t with
              | positive => exact congrArg some hsize
              | negative => rfl
          | negative =>
              cases t with
              | positive => rfl
              | negative => exact congrArg (fun o => some o.swap) hsize

/-- What is not a number is not below anything. -/
theorem isNaN_eq_false_of_le {x y : Float} (h : x ≤ y) : x.isNaN = false := by
  rw [float_le_iff] at h
  refine Bool.eq_false_of_not_eq_true fun hnan => ?_
  rw [UnpackedFloat.isNaN_iff.mp hnan] at h
  simp [UnpackedFloat.compare] at h

/-- Nothing is below what is not a number. -/
theorem isNaN_eq_false_of_ge {x y : Float} (h : x ≤ y) : y.isNaN = false := by
  rw [float_le_iff, compare_swap] at h
  refine Bool.eq_false_of_not_eq_true fun hnan => ?_
  rw [UnpackedFloat.isNaN_iff.mp hnan] at h
  simp [UnpackedFloat.compare] at h

/-- Between finite doubles there are finite ones only. -/
theorem isFinite_of_le_of_le {low x high : Float} (hlow : low ≤ x) (hhigh : x ≤ high)
    (hlowFinite : low.isFinite = true) (hhighFinite : high.isFinite = true) :
    x.isFinite = true := by
  rw [float_le_iff] at hlow hhigh
  change low.toModel.unpack.isFinite = true at hlowFinite
  change high.toModel.unpack.isFinite = true at hhighFinite
  change x.toModel.unpack.isFinite = true
  cases hx : x.toModel.unpack with
  | notANumber => simp [hx, Float.Model.UnpackedFloat.compare] at hhigh
  | zero sign => rfl
  | finite sign mantissa exponent hpos => rfl
  | infinity sign =>
      -- The upper bound rules out one infinity, the lower bound the other.
      rw [hx] at hlow hhigh
      generalize low.toModel.unpack = low at hlow hlowFinite
      generalize high.toModel.unpack = high at hhigh hhighFinite
      cases sign with
      | positive =>
          cases high <;>
            simp_all [Float.Model.UnpackedFloat.isFinite, Float.Model.UnpackedFloat.compare]
      | negative =>
          cases low <;>
            simp_all [Float.Model.UnpackedFloat.isFinite, Float.Model.UnpackedFloat.compare]

/-- Numbers can be compared. -/
theorem compare_of_numbers {u v : UnpackedFloat} (hu : u.isNaN = false) (hv : v.isNaN = false) :
    ∃ o, u.compare v = some o := by
  cases u with
  | notANumber => cases hu
  | infinity s =>
      cases v with
      | notANumber => cases hv
      | infinity t => exact ⟨_, rfl⟩
      | _ => cases s <;> exact ⟨_, rfl⟩
  | zero s =>
      cases v with
      | notANumber => cases hv
      | zero t => exact ⟨_, rfl⟩
      | _ t => cases t <;> exact ⟨_, rfl⟩
  | finite s m e hm =>
      cases v with
      | notANumber => cases hv
      | zero t => cases s <;> exact ⟨_, rfl⟩
      | _ t => cases s <;> cases t <;> exact ⟨_, rfl⟩

/-- **The order of numbers is total.** -/
theorem float_le_of_not_lt {x y : Float} (hx : x.isNaN = false) (hy : y.isNaN = false)
    (h : ¬ x < y) : y ≤ x := by
  obtain ⟨o, ho⟩ := compare_of_numbers (u := x.toModel.unpack) (v := y.toModel.unpack) hx hy
  rw [float_lt_iff, ho] at h
  rw [float_le_iff, compare_swap, ho]
  cases o with
  | lt => exact absurd rfl h
  | eq => rfl
  | gt => rfl

/-! ## Signs -/

/-- A number of the sign, or a zero. -/
def BearsSign (s : Sign) : UnpackedFloat → Prop
  | .infinity t => t = s
  | .finite t .. => t = s
  | .zero _ => True
  | .notANumber => False

theorem zero_le_iff (x : Float) : 0.0 ≤ x ↔ BearsSign .positive x.toModel.unpack := by
  have hzero : (0.0 : Float).toModel.unpack = .zero .positive := by rfl
  rw [float_le_iff, hzero]
  cases x.toModel.unpack with
  | notANumber => simp [BearsSign, UnpackedFloat.compare]
  | infinity s => cases s <;> simp [BearsSign, UnpackedFloat.compare]
  | zero s => simp [BearsSign, UnpackedFloat.compare]
  | finite s m e hm => cases s <;> simp [BearsSign, UnpackedFloat.compare]

theorem le_zero_iff (x : Float) : x ≤ 0.0 ↔ BearsSign .negative x.toModel.unpack := by
  have hzero : (0.0 : Float).toModel.unpack = .zero .positive := by rfl
  rw [float_le_iff, hzero]
  cases x.toModel.unpack with
  | notANumber => simp [BearsSign, UnpackedFloat.compare]
  | infinity s => cases s <;> simp [BearsSign, UnpackedFloat.compare]
  | zero s => simp [BearsSign, UnpackedFloat.compare]
  | finite s m e hm => cases s <;> simp [BearsSign, UnpackedFloat.compare]

/-- The parts of a packed double, with an exponent that is no mark of what is not a number. -/
theorem bearsSign_unpack_components (s : Sign) {e : BitVec Format.binary64.exponentBits}
    {m : BitVec Format.binary64.mantissaBitsWithoutImplicit} (hm : e = -1#_ → m = 0#_) :
    BearsSign s (.unpack .binary64 (packComponents .binary64 s e m)) := by
  have hsign : Sign.ofBitVec (unpackSign (packComponents .binary64 s e m)) = s := by
    rw [unpackSign_packComponents]
    cases s <;> rfl
  simp only [UnpackedFloat.unpack, unpackExponent_packComponents, unpackMantissa_packComponents,
    hsign]
  split
  · rename_i he
    rw [if_pos (hm he)]
    rfl
  · split
    · split
      · trivial
      · rfl
    · rfl

/-- Packing keeps the sign, also where a magnitude is rounded off. -/
theorem BearsSign.pack {s : Sign} {u : UnpackedFloat} (h : BearsSign s u) :
    BearsSign s (Float.Model.pack u).unpack := by
  change BearsSign s (.unpack .binary64 (UnpackedFloat.pack .binary64 u))
  cases u with
  | notANumber => exact h.elim
  | infinity t =>
      obtain rfl : t = s := h
      exact bearsSign_unpack_components t fun _ => rfl
  | zero t => cases t <;> trivial
  | finite t m e hm =>
      obtain rfl : t = s := h
      rw [UnpackedFloat.pack]
      split
      · exact bearsSign_unpack_components t fun _ => rfl
      · split
        · -- The exponent is below the largest, which marks what is not finite.
          rename_i hexponent _
          refine bearsSign_unpack_components t fun he => ?_
          have hnat := congrArg BitVec.toNat he
          rw [BitVec.toNat_ofNat, Nat.mod_eq_of_lt (by omega)] at hnat
          rw [hnat] at hexponent
          exact absurd (by decide) hexponent
        · exact bearsSign_unpack_components t nofun

theorem bearsSign_round (s : Sign) (m : Nat) (e : Int) : BearsSign s (.round .binary64 s m e) := by
  unfold UnpackedFloat.round roundWithAccuracy
  dsimp only
  split
  · trivial
  · rfl

/-- A magnitude that is not below zero rounds to a double that is not. -/
theorem bearsSign_normalize {m : Int} (hm : 0 ≤ m) (e : Int) :
    BearsSign .positive (.normalize .binary64 m e .positive) := by
  rw [UnpackedFloat.normalize]
  cases horder : compare m 0 with
  | lt =>
      have hlt := Int.compare_eq_lt.mp horder
      omega
  | eq => trivial
  | gt => exact bearsSign_round ..

theorem BearsSign.neg {s : Sign} {u : UnpackedFloat} (h : BearsSign s u) : BearsSign (-s) u.neg := by
  cases u with
  | notANumber => exact h.elim
  | infinity t => exact congrArg (- ·) h
  | zero t => trivial
  | finite t m e hm => exact congrArg (- ·) h

theorem BearsSign.add {u v : UnpackedFloat} (hu : BearsSign .positive u)
    (hv : BearsSign .positive v) : BearsSign .positive (.add .binary64 u v) := by
  cases u with
  | notANumber => exact hu.elim
  | infinity s =>
      obtain rfl : s = .positive := hu
      cases v with
      | notANumber => exact hv.elim
      | infinity t =>
          obtain rfl : t = .positive := hv
          rfl
      | _ => rfl
  | zero s =>
      cases v with
      | notANumber => exact hv.elim
      | zero t => cases s <;> cases t <;> trivial
      | _ => exact hv
  | finite s m e hm =>
      obtain rfl : s = .positive := hu
      cases v with
      | notANumber => exact hv.elim
      | infinity t => exact hv
      | zero t => rfl
      | finite t n f hn =>
          obtain rfl : t = .positive := hv
          rw [UnpackedFloat.add]
          exact bearsSign_normalize (Int.add_nonneg (Int.natCast_nonneg _) (Int.natCast_nonneg _)) _

/-- The opposite of what is not below zero is not above it. -/
theorem neg_le_zero {x : Float} (h : 0.0 ≤ x) : -x ≤ 0.0 :=
  (le_zero_iff (-x)).mpr ((zero_le_iff x).mp h).neg.pack

theorem zero_le_add {x y : Float} (hx : 0.0 ≤ x) (hy : 0.0 ≤ y) : 0.0 ≤ x + y :=
  (zero_le_iff (x + y)).mpr (((zero_le_iff x).mp hx).add ((zero_le_iff y).mp hy)).pack

theorem zero_le_toFloat (n : UInt32) : 0.0 ≤ n.toFloat :=
  (zero_le_iff n.toFloat).mpr (bearsSign_normalize (Int.natCast_nonneg n.toNat) 0).pack

/-- What is not a number has no opposite that is one. -/
theorem isNaN_neg {x : Float} (h : x.isNaN = true) : (-x).isNaN = true := by
  rw [Float.isNaN_eq_decide_eq_nan, decide_eq_true_eq] at h
  subst h
  rfl

/-- Whatever equals zero is one of the zeros. -/
theorem unpack_of_beq_zero {x : Float} (h : (x == 0.0) = true) :
    ∃ s, x.toModel.unpack = .zero s := by
  have hzeros := (UnpackedFloat.beq_iff_ne_notANumber_and_eq x.toModel.unpack _).mp h
  obtain hzero | ⟨hpositive, -⟩ | ⟨hnegative, -⟩ := hzeros.2.2
  · exact ⟨.positive, hzero⟩
  · exact ⟨.positive, hpositive⟩
  · exact ⟨.negative, hnegative⟩

/-- No finite number of times zero is added to zero. -/
theorem zero_add_mul_zero {f x : Float} (hf : f.isFinite = true) (hx : (x == 0.0) = true) :
    0.0 + f * x = 0.0 := by
  obtain ⟨s, hs⟩ := unpack_of_beq_zero hx
  have hzero : ∃ t, UnpackedFloat.mul .binary64 f.toModel.unpack x.toModel.unpack = .zero t := by
    rw [hs]
    change f.toModel.unpack.isFinite = true at hf
    cases hu : f.toModel.unpack with
    | notANumber => simp [hu, UnpackedFloat.isFinite] at hf
    | infinity t => simp [hu, UnpackedFloat.isFinite] at hf
    | _ => exact ⟨_, rfl⟩
  obtain ⟨t, ht⟩ := hzero
  change Float.ofModel (.pack (.add .binary64 (0.0 : Float).toModel.unpack
    (Float.Model.pack (.mul .binary64 f.toModel.unpack x.toModel.unpack)).unpack)) = 0.0
  rw [ht]
  cases t <;> rfl

end StepScript
