import Mathlib.Data.Fintype.Prod
import StepScript.Proofs.Game.Search
set_option autoImplicit false

/-!
# The game: every cell is as likely as any other

A cell takes two numbers below the size of the board, so it is given by as many pairs of accepted
words as any other cell.  The start cell is drawn again.

Main statement: `placement_uniform`.
-/

namespace StepScript

open Generator

/-- The cell that two words give, the first of them its column: none if one of them is not accepted,
and none if it is the start cell. -/
def Square.ofWords? (size : UInt32) (w₁ w₂ : BitVec 32) : Option Square :=
  match ofWord? size w₁, ofWord? size w₂ with
  | some x, some y => if (⟨x, y⟩ : Square) = .origin then none else some ⟨x, y⟩
  | _, _ => none

namespace Square

theorem ofWords?_eq_some_iff (size : UInt32) (w₁ w₂ : BitVec 32) (s : Square) :
    ofWords? size w₁ w₂ = some s ↔
      s ≠ .origin ∧ ofWord? size w₁ = some s.x ∧ ofWord? size w₂ = some s.y := by
  obtain ⟨x, y⟩ := s
  unfold ofWords?
  cases hx : ofWord? size w₁ with
  | none => simp
  | some x' =>
      cases hy : ofWord? size w₂ with
      | none => simp
      | some y' =>
          simp only [Option.ite_none_left_eq_some, Option.some.injEq, mk.injEq]
          constructor
          · rintro ⟨hother, rfl, rfl⟩
            exact ⟨hother, rfl, rfl⟩
          · rintro ⟨hother, rfl, rfl⟩
            exact ⟨hother, rfl, rfl⟩

/-- **Every cell but the start cell is given by the same number of pairs of words**, and nothing else
by any pair. -/
theorem card_pairs {size : UInt32} (hsize : 0 < size) (s : Square) :
    (Finset.univ.filter fun p : BitVec 32 × BitVec 32 => ofWords? size p.1 p.2 = some s).card =
      if s.IsPlace size then 4 ^ leadingZeros size else 0 := by
  by_cases hother : s = .origin
  · have hnone : ¬ s.IsPlace size := fun hplace => hplace.2.2 hother
    rw [if_neg hnone, Finset.card_eq_zero, Finset.filter_eq_empty_iff]
    intro p _ hpair
    exact ((ofWords?_eq_some_iff size p.1 p.2 s).mp hpair).1 hother
  · have hpairs : (Finset.univ.filter fun p : BitVec 32 × BitVec 32 =>
          ofWords? size p.1 p.2 = some s) =
        (Finset.univ.filter fun w => ofWord? size w = some s.x) ×ˢ
          (Finset.univ.filter fun w => ofWord? size w = some s.y) := by
      ext p
      simp [ofWords?_eq_some_iff, hother]
    rw [hpairs, Finset.card_product, card_words hsize, card_words hsize]
    by_cases hx : s.x < size
    · by_cases hy : s.y < size
      · have hplace : s.IsPlace size := ⟨hx, hy, hother⟩
        rw [if_pos hx, if_pos hy, if_pos hplace, ← Nat.mul_pow]
      · have hoff : ¬ s.IsPlace size := fun hplace => hy hplace.2.1
        rw [if_neg hy, if_neg hoff, Nat.mul_zero]
    · have hoff : ¬ s.IsPlace size := fun hplace => hx hplace.1
      rw [if_neg hx, if_neg hoff, Nat.zero_mul]

end Square

/-- One cell is drawn from two words, both of them accepted. -/
theorem drawTarget?_of_words {g : Generator} (hodd : Odd g.increment) {size : UInt32}
    (hsize : 0 < size) (fuel : Nat) :
    let x := below size g
    let y := below size x.2
    ofWord? size x.2.lastWord = some x.1 ∧ ofWord? size y.2.lastWord = some y.1 ∧
      drawTarget? (fuel + 1) size g =
        match Square.ofWords? size x.2.lastWord y.2.lastWord with
        | some s => some (s, y.2)
        | none => drawTarget? fuel size y.2 := by
  intro x y
  obtain ⟨j, hdrawn⟩ := draws_below hodd size
  obtain ⟨k, hdrawn'⟩ := draws_below (odd_increment_below hodd size) size
  have hx : ofWord? size x.2.lastWord = some x.1 := hdrawn.ofWord?_lastWord hsize
  have hy : ofWord? size y.2.lastWord = some y.1 := hdrawn'.ofWord?_lastWord hsize
  have hround : drawTarget? (fuel + 1) size g =
      if (⟨x.1, y.1⟩ : Square) = .origin then drawTarget? fuel size y.2
      else some (⟨x.1, y.1⟩, y.2) := drawTarget?_succ fuel size g
  refine ⟨hx, hy, ?_⟩
  by_cases horigin : (⟨x.1, y.1⟩ : Square) = .origin
  · have hcell : Square.ofWords? size x.2.lastWord y.2.lastWord = none := by
      simp only [Square.ofWords?, hx, hy, if_pos horigin]
    rw [hround, hcell, if_pos horigin]
  · have hcell : Square.ofWords? size x.2.lastWord y.2.lastWord = some ⟨x.1, y.1⟩ := by
      simp only [Square.ofWords?, hx, hy, if_neg horigin]
    rw [hround, hcell, if_neg horigin]

/-- **Placement is uniform.**  The size of the board is shifted to its full 32 bits and no further.
Every number below it is given by the same number of words, a power of two, and every cell of the
board but the start cell by the same number of pairs of words; nothing else is given by any word or
pair.  One round of the search draws two accepted words, and keeps the cell that they give. -/
theorem placement_uniform {size : UInt32} (hsize : 0 < size) :
    (2 ^ 31 ≤ size.toNat * 2 ^ leadingZeros size ∧ size.toNat * 2 ^ leadingZeros size < 2 ^ 32) ∧
      (∀ n : UInt32, (Finset.univ.filter fun w => ofWord? size w = some n).card =
        if n < size then 2 ^ leadingZeros size else 0) ∧
      (∀ s : Square, (Finset.univ.filter fun p : BitVec 32 × BitVec 32 =>
          Square.ofWords? size p.1 p.2 = some s).card =
        if s.x < size ∧ s.y < size ∧ s ≠ .origin then 4 ^ leadingZeros size else 0) ∧
      ∀ seed words fuel,
        let g := step^[words] (ofSeed seed)
        let x := below size g
        let y := below size x.2
        ofWord? size x.2.lastWord = some x.1 ∧ ofWord? size y.2.lastWord = some y.1 ∧
          drawTarget? (fuel + 1) size g =
            match Square.ofWords? size x.2.lastWord y.2.lastWord with
            | some s => some (s, y.2)
            | none => drawTarget? fuel size y.2 := by
  refine ⟨shifted_bounds hsize, card_words hsize, Square.card_pairs hsize, ?_⟩
  intro seed words fuel
  have hodd : Odd (step^[words] (ofSeed seed)).increment := by
    rw [increment_iterate_step]
    exact odd_increment_ofSeed seed
  exact drawTarget?_of_words hodd hsize fuel

/-- On a board of seven cells on a side. -/
theorem placement_uniform_of_seven :
    0 < (7 : UInt32) ∧
      (Finset.univ.filter fun w => ofWord? 7 w = some 3).card = 2 ^ 29 ∧
      (Finset.univ.filter fun w => ofWord? 7 w = some 7).card = 0 ∧
      (Finset.univ.filter fun p : BitVec 32 × BitVec 32 =>
        Square.ofWords? 7 p.1 p.2 = some ⟨3, 5⟩).card = 4 ^ 29 ∧
      (Finset.univ.filter fun p : BitVec 32 × BitVec 32 =>
        Square.ofWords? 7 p.1 p.2 = some .origin).card = 0 := by
  have hsize : 0 < (7 : UInt32) := by decide
  have hzeros : leadingZeros 7 = 29 := by decide
  obtain ⟨-, hwords, hpairs, -⟩ := placement_uniform hsize
  rw [hzeros] at hwords hpairs
  exact ⟨hsize, (hwords 3).trans (if_pos (by decide)), (hwords 7).trans (if_neg (by decide)),
    (hpairs ⟨3, 5⟩).trans (if_pos (by decide)), (hpairs .origin).trans (if_neg (by decide))⟩

end StepScript
