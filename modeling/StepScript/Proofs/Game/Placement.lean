import StepScript.Game.Basic
set_option autoImplicit false

/-!
# The game: where targets are placed

Main statement: `drawTarget_isPlace`, by which a drawn target is a cell of the board and not the
start cell, whatever the state of the generator.
-/

namespace StepScript

namespace Generator

/-- The high half of a widened product is below the bound. -/
theorem lt_of_ofWord? {bound n : UInt32} {w : BitVec 32} (hbound : 0 < bound)
    (hword : ofWord? bound w = some n) : n < bound := by
  have hpositive : 0 < bound.toNat := UInt32.lt_iff_toNat_lt.mp hbound
  have hlt : w.toNat * bound.toNat / UInt32.size < bound.toNat :=
    Nat.div_lt_of_lt_mul (Nat.mul_lt_mul_of_pos_right w.isLt hpositive)
  have hsmall : w.toNat * bound.toNat / UInt32.size < UInt32.size := Nat.lt_trans hlt bound.toNat_lt
  have hnumber : UInt32.ofNat (w.toNat * bound.toNat / UInt32.size) = n := by
    simp only [ofWord?, Option.ite_none_right_eq_some, Option.some.injEq] at hword
    exact hword.2
  rw [← hnumber, UInt32.lt_iff_toNat_lt, UInt32.toNat_ofNat_of_lt' hsmall]
  exact hlt

theorem lt_of_drawBelow? {fuel : Nat} {bound n : UInt32} {g g' : Generator} (hbound : 0 < bound)
    (hdraw : drawBelow? fuel bound g = some (n, g')) : n < bound := by
  induction fuel generalizing g with
  | zero => cases hdraw
  | succ fuel ih =>
      simp only [drawBelow?, Option.orElse_eq_orElse, Option.orElse_eq_or, Option.or_eq_some_iff,
        Option.map_eq_some_iff] at hdraw
      rcases hdraw with ⟨m, hword, hn⟩ | ⟨-, hrest⟩
      · obtain ⟨rfl, -⟩ := Prod.mk.inj hn
        exact lt_of_ofWord? hbound hword
      · exact ih hrest

/-- A number drawn below a bound is below it. -/
theorem below_lt {bound : UInt32} (hbound : 0 < bound) (g : Generator) :
    (below bound g).1 < bound := by
  have hne : bound ≠ 0 := by
    rintro rfl
    exact absurd hbound (by decide)
  rw [below, if_neg hne]
  cases hdraw : drawBelow? period bound g with
  | none =>
      rw [Option.getD_none]
      exact hbound
  | some drawn =>
      rw [Option.getD_some]
      exact lt_of_drawBelow? hbound hdraw

end Generator

/-- Whether a target may lie on a cell of a board of this size. -/
def Square.IsPlace (size : UInt32) (s : Square) : Prop := s.x < size ∧ s.y < size ∧ s ≠ .origin

instance (size : UInt32) (s : Square) : Decidable (s.IsPlace size) :=
  inferInstanceAs (Decidable (_ ∧ _ ∧ _))

theorem isPlace_of_drawTarget? {fuel : Nat} {size : UInt32} {s : Square} {g g' : Generator}
    (hsize : 0 < size) (hdraw : drawTarget? fuel size g = some (s, g')) : s.IsPlace size := by
  induction fuel generalizing g with
  | zero => cases hdraw
  | succ fuel ih =>
      simp only [drawTarget?] at hdraw
      split at hdraw
      · exact ih hdraw
      · next hother =>
          obtain ⟨rfl, -⟩ := Prod.mk.inj (Option.some.inj hdraw)
          exact ⟨Generator.below_lt hsize _, Generator.below_lt hsize _, hother⟩

/-- **A target is placed on the board**, and not on the start cell. -/
theorem drawTarget_isPlace {size : UInt32} (hsize : 2 ≤ size) (g : Generator) :
    (drawTarget size g).1.IsPlace size := by
  have hone : (1 : UInt32) < size := by
    rw [UInt32.le_iff_toNat_le] at hsize
    rw [UInt32.lt_iff_toNat_lt]
    exact hsize
  have hpositive : (0 : UInt32) < size := UInt32.lt_trans (by decide) hone
  rw [drawTarget]
  cases hdraw : drawTarget? Generator.period size g with
  | none =>
      rw [Option.getD_none]
      exact ⟨hone, hpositive, by simp [Square.origin]⟩
  | some drawn =>
      rw [Option.getD_some]
      exact isPlace_of_drawTarget? hpositive hdraw

end StepScript
