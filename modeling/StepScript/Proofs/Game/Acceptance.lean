import Mathlib.Algebra.Order.Floor.Div
import Mathlib.Data.BitVec
import Mathlib.Data.Finset.Card
import Mathlib.Data.Fintype.Card
import Mathlib.Order.Interval.Finset.Nat
import StepScript.Proofs.Game.Placement
set_option autoImplicit false

/-!
# The game: which words are accepted

The product of a word and a bound is read in two halves.  The products with the high half `n` are the
multiples of the bound in a window of `2 ^ 32` numbers that starts at `n * 2 ^ 32`, and those
accepted are in the zone at the start of the window.  The zone is as long as `2 ^ k` multiples of the
bound, so it holds that many of them, wherever it lies.

Main statements: `ofWord?_eq_some_iff`, the words that give a number, and `card_words`, how many there
are.
-/

namespace StepScript

/-- The words of a length are finitely many. -/
instance instFintypeBitVec (n : Nat) : Fintype (BitVec n) :=
  Fintype.ofEquiv (Fin (2 ^ n)) BitVec.equivFin.symm.toEquiv

namespace Generator

/-! ## The zone -/

/-- The bound is shifted until its first bit is the first of 32, so it loses none. -/
theorem shifted_bounds {bound : UInt32} (hbound : 0 < bound) :
    2 ^ 31 ≤ bound.toNat * 2 ^ leadingZeros bound ∧
      bound.toNat * 2 ^ leadingZeros bound < UInt32.size := by
  have hne : bound.toNat ≠ 0 := (UInt32.lt_iff_toNat_lt.mp hbound).ne'
  have hlog : bound.toNat.log2 < 32 := (Nat.log2_lt hne).mpr bound.toNat_lt
  have hpower (k : Nat) : 2 ^ (bound.toNat.log2 + k) * 2 ^ leadingZeros bound = 2 ^ (31 + k) := by
    rw [leadingZeros, ← pow_add]
    congr 1
    omega
  constructor
  · calc 2 ^ 31
        = 2 ^ bound.toNat.log2 * 2 ^ leadingZeros bound := (hpower 0).symm
      _ ≤ bound.toNat * 2 ^ leadingZeros bound :=
          Nat.mul_le_mul_right _ (Nat.log2_self_le hne)
  · calc bound.toNat * 2 ^ leadingZeros bound
        < 2 ^ (bound.toNat.log2 + 1) * 2 ^ leadingZeros bound :=
          Nat.mul_lt_mul_of_pos_right Nat.lt_log2_self (Nat.two_pow_pos _)
      _ = UInt32.size := hpower 1

theorem zone_add_one {bound : UInt32} (hbound : 0 < bound) :
    zone bound + 1 = bound.toNat * 2 ^ leadingZeros bound := by
  have hpositive : 0 < bound.toNat * 2 ^ leadingZeros bound :=
    Nat.mul_pos (UInt32.lt_iff_toNat_lt.mp hbound) (Nat.two_pow_pos _)
  rw [zone, Nat.shiftLeft_eq]
  omega

/-! ## The words of a number -/

/-- A word gives the number in whose window its product lies, if it lies in the zone. -/
theorem ofWord?_eq_some_iff {bound : UInt32} (hbound : 0 < bound) (n : UInt32) (w : BitVec 32) :
    ofWord? bound w = some n ↔ n < bound ∧ n.toNat * UInt32.size ≤ bound.toNat * w.toNat ∧
      bound.toNat * w.toNat < n.toNat * UInt32.size + bound.toNat * 2 ^ leadingZeros bound := by
  have hzone := zone_add_one hbound
  obtain ⟨-, hshifted⟩ := shifted_bounds hbound
  have hsplit := Nat.div_add_mod (w.toNat * bound.toNat) UInt32.size
  rw [Nat.mul_comm bound.toNat w.toNat]
  constructor
  · intro hword
    have hn := lt_of_ofWord? hbound hword
    simp only [ofWord?, Option.ite_none_right_eq_some, Option.some.injEq] at hword
    obtain ⟨hlow, hhigh⟩ := hword
    have hsmall : w.toNat * bound.toNat / UInt32.size < UInt32.size :=
      Nat.div_lt_of_lt_mul (Nat.mul_lt_mul'' w.isLt bound.toNat_lt)
    have hdiv : w.toNat * bound.toNat / UInt32.size = n.toNat := by
      rw [← hhigh, UInt32.toNat_ofNat_of_lt' hsmall]
    rw [hdiv] at hsplit
    refine ⟨hn, ?_, ?_⟩
    · rw [Nat.mul_comm]
      omega
    · rw [Nat.mul_comm n.toNat]
      omega
  · rintro ⟨hn, hfrom, hto⟩
    have hdiv : w.toNat * bound.toNat / UInt32.size = n.toNat :=
      Nat.div_eq_of_lt_le hfrom (by rw [Nat.succ_mul]; omega)
    rw [hdiv, Nat.mul_comm] at hsplit
    have hlow : w.toNat * bound.toNat % UInt32.size ≤ zone bound := by omega
    simp only [ofWord?]
    rw [if_pos hlow, hdiv, UInt32.ofNat_toNat]

theorem ceilDiv_zone {bound : Nat} (hbound : 0 < bound) (a k : Nat) :
    (a + bound * k) ⌈/⌉ bound = a ⌈/⌉ bound + k := by
  rw [Nat.ceilDiv_eq_add_pred_div, Nat.ceilDiv_eq_add_pred_div, ← Nat.add_mul_div_left _ _ hbound]
  congr 1
  omega

/-- The words that give a number follow one another, and there are `2 ^ k` of them. -/
theorem image_words {bound n : UInt32} (hn : n < bound) :
    (Finset.univ.filter fun w => ofWord? bound w = some n).image BitVec.toNat =
      Finset.Ico ((n.toNat * UInt32.size) ⌈/⌉ bound.toNat)
        ((n.toNat * UInt32.size) ⌈/⌉ bound.toNat + 2 ^ leadingZeros bound) := by
  have hbound : 0 < bound := UInt32.lt_of_le_of_lt UInt32.zero_le hn
  have hpositive : 0 < bound.toNat := UInt32.lt_iff_toNat_lt.mp hbound
  rw [← ceilDiv_zone hpositive]
  ext m
  simp only [Finset.mem_image, Finset.mem_filter, Finset.mem_univ, true_and, Finset.mem_Ico,
    ← not_le, ceilDiv_le_iff_le_mul hpositive, ofWord?_eq_some_iff hbound]
  constructor
  · rintro ⟨w, ⟨-, hfrom, hto⟩, rfl⟩
    exact ⟨hfrom, hto⟩
  · rintro ⟨hfrom, hto⟩
    have hsmall : m < UInt32.size := by
      -- The window is not the last one past the bound, so its multiples come from words.
      obtain ⟨-, hshifted⟩ := shifted_bounds hbound
      have hnext : (n.toNat + 1) * UInt32.size ≤ bound.toNat * UInt32.size :=
        Nat.mul_le_mul_right _ (UInt32.lt_iff_toNat_lt.mp hn)
      rw [Nat.succ_mul] at hnext
      exact Nat.lt_of_mul_lt_mul_left (a := bound.toNat) (by omega)
    have htoNat : (BitVec.ofNat 32 m).toNat = m := by
      rw [BitVec.toNat_ofNat]
      exact Nat.mod_eq_of_lt hsmall
    exact ⟨BitVec.ofNat 32 m, by rw [htoNat]; exact ⟨hn, hfrom, hto⟩, htoNat⟩

/-- **Every number below the bound is given by the same number of words**, and no other number by any
word. -/
theorem card_words {bound : UInt32} (hbound : 0 < bound) (n : UInt32) :
    (Finset.univ.filter fun w => ofWord? bound w = some n).card =
      if n < bound then 2 ^ leadingZeros bound else 0 := by
  split
  · next hn =>
      rw [← Finset.card_image_of_injective _ BitVec.toNat_injective, image_words hn, Nat.card_Ico,
        Nat.add_sub_cancel_left]
  · next hn =>
      rw [Finset.card_eq_zero, Finset.filter_eq_empty_iff]
      intro w _ hword
      exact hn (lt_of_ofWord? hbound hword)

/-- Some word gives a number below the bound. -/
theorem exists_ofWord?_eq {bound n : UInt32} (hn : n < bound) : ∃ w, ofWord? bound w = some n := by
  have hcard := card_words (UInt32.lt_of_le_of_lt UInt32.zero_le hn) n
  rw [if_pos hn] at hcard
  obtain ⟨w, hw⟩ := Finset.card_pos.mp (hcard ▸ Nat.two_pow_pos _)
  exact ⟨w, (Finset.mem_filter.mp hw).2⟩

end Generator

end StepScript
