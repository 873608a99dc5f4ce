import StepScript.Proofs.Game.Acceptance
import StepScript.Proofs.Game.Cycle
import StepScript.Proofs.Run.Renewal
set_option autoImplicit false

/-!
# The game: the search for a target ends

`Draws` and `Places` are the two searches without a limit: words are drawn until one is accepted, and
cells until one is not the start cell.  They end because the generator goes through all its words, and
some word gives the number one.

Main statement: `target_search_ends`, by which from every state that a seed leads to both searches
end, and with what the game draws; the one for a cell needs two cells on a side.
-/

namespace StepScript

namespace Generator

/-! ## Numbers -/

/-- So many words are drawn, and the last of them is the first that is accepted.  There is no number
below zero, and none is searched for. -/
inductive Draws (bound : UInt32) : Generator → Nat → UInt32 → Generator → Prop where
  | empty {g : Generator} (hbound : bound = 0) : Draws bound g 0 0 g
  | accept {g : Generator} {n : UInt32} (hbound : 0 < bound)
      (hword : ofWord? bound g.step.lastWord = some n) : Draws bound g 1 n g.step
  | reject {g g' : Generator} {k : Nat} {n : UInt32} (hbound : 0 < bound)
      (hword : ofWord? bound g.step.lastWord = none) (hrest : Draws bound g.step k n g') :
      Draws bound g (k + 1) n g'

namespace Draws

variable {bound n : UInt32} {g g' : Generator} {k : Nat}

theorem pos (h : Draws bound g k n g') (hbound : 0 < bound) : 0 < k := by
  cases h with
  | empty hzero =>
      rw [hzero] at hbound
      exact absurd hbound (by decide)
  | accept => exact Nat.one_pos
  | reject => exact Nat.succ_pos _

theorem eq_iterate (h : Draws bound g k n g') : g' = step^[k] g := by
  induction h with
  | empty => rw [Function.iterate_zero_apply]
  | accept => rw [Function.iterate_one]
  | reject _ _ _ ih => rw [Function.iterate_succ_apply, ih]

/-- The search has one end. -/
theorem unique (h : Draws bound g k n g') {j : Nat} {m : UInt32} {g'' : Generator}
    (h' : Draws bound g j m g'') : m = n ∧ g'' = g' := by
  induction h generalizing j with
  | empty hzero =>
      cases h' with
      | empty => exact ⟨rfl, rfl⟩
      | accept hbound => exact absurd hzero (UInt32.pos_iff_ne_zero.mp hbound)
      | reject hbound => exact absurd hzero (UInt32.pos_iff_ne_zero.mp hbound)
  | accept hbound hword =>
      cases h' with
      | empty hzero => exact absurd hzero (UInt32.pos_iff_ne_zero.mp hbound)
      | accept _ hword' =>
          rw [hword] at hword'
          exact ⟨(Option.some.inj hword').symm, rfl⟩
      | reject _ hword' =>
          rw [hword] at hword'
          cases hword'
  | reject hbound hword _ ih =>
      cases h' with
      | empty hzero => exact absurd hzero (UInt32.pos_iff_ne_zero.mp hbound)
      | accept _ hword' =>
          rw [hword] at hword'
          cases hword'
      | reject _ _ hrest' => exact ih hrest'

/-- The last word gives the number. -/
theorem ofWord?_lastWord (h : Draws bound g k n g') (hbound : 0 < bound) :
    ofWord? bound g'.lastWord = some n := by
  induction h with
  | empty hzero =>
      rw [hzero] at hbound
      exact absurd hbound (by decide)
  | accept _ hword => exact hword
  | reject _ _ _ ih => exact ih

/-- No word on the way gives another number. -/
theorem passed (h : Draws bound g k n g') {i : Nat} (hi : i < k) {m : UInt32}
    (hword : ofWord? bound (step^[i] g).word.1 = some m) : m = n := by
  induction h generalizing i with
  | empty => exact absurd hi (Nat.not_lt_zero i)
  | accept _ hlast =>
      obtain rfl : i = 0 := by omega
      rw [Function.iterate_zero_apply, word_eq, hlast] at hword
      exact (Option.some.inj hword).symm
  | reject _ hnone _ ih =>
      cases i with
      | zero =>
          rw [Function.iterate_zero_apply, word_eq, hnone] at hword
          cases hword
      | succ i =>
          rw [Function.iterate_succ_apply] at hword
          exact ih (Nat.lt_of_succ_lt_succ hi) hword

end Draws

theorem drawBelow?_succ_of_some {bound n : UInt32} {g : Generator}
    (hword : ofWord? bound g.step.lastWord = some n) (fuel : Nat) :
    drawBelow? (fuel + 1) bound g = some (n, g.step) := by
  simp [drawBelow?, word_eq, hword]

theorem drawBelow?_succ_of_none {bound : UInt32} {g : Generator}
    (hword : ofWord? bound g.step.lastWord = none) (fuel : Nat) :
    drawBelow? (fuel + 1) bound g = drawBelow? fuel bound g.step := by
  simp [drawBelow?, word_eq, hword]

theorem draws_of_drawBelow? {bound n : UInt32} (hbound : 0 < bound) {fuel : Nat}
    {g g' : Generator} (hdraw : drawBelow? fuel bound g = some (n, g')) :
    ∃ k, Draws bound g k n g' := by
  induction fuel generalizing g with
  | zero => cases hdraw
  | succ fuel ih =>
      cases hword : ofWord? bound g.step.lastWord with
      | some m =>
          rw [drawBelow?_succ_of_some hword] at hdraw
          obtain ⟨rfl, rfl⟩ := Prod.mk.inj (Option.some.inj hdraw)
          exact ⟨1, .accept hbound hword⟩
      | none =>
          rw [drawBelow?_succ_of_none hword] at hdraw
          obtain ⟨k, hrest⟩ := ih hdraw
          exact ⟨k + 1, .reject hbound hword hrest⟩

/-- A search that comes to its limit has rejected every word. -/
theorem rejected_of_drawBelow? {bound : UInt32} {fuel : Nat} {g : Generator}
    (hdraw : drawBelow? fuel bound g = none) {i : Nat} (hi : i < fuel) :
    ofWord? bound (step^[i] g).word.1 = none := by
  induction fuel generalizing g i with
  | zero => exact absurd hi (Nat.not_lt_zero i)
  | succ fuel ih =>
      cases hword : ofWord? bound g.step.lastWord with
      | some m =>
          rw [drawBelow?_succ_of_some hword] at hdraw
          cases hdraw
      | none =>
          cases i with
          | zero => rw [Function.iterate_zero_apply, word_eq, hword]
          | succ i =>
              rw [drawBelow?_succ_of_none hword] at hdraw
              rw [Function.iterate_succ_apply]
              exact ih hdraw (Nat.lt_of_succ_lt_succ hi)

/-- **The search for a number ends**, since one of the words of the cycle gives zero. -/
theorem draws_below {g : Generator} (hodd : Odd g.increment) (bound : UInt32) :
    ∃ k, Draws bound g k (below bound g).1 (below bound g).2 := by
  rw [below]
  split
  · next hzero => exact ⟨0, .empty hzero⟩
  · next hne =>
      have hbound : 0 < bound := UInt32.pos_iff_ne_zero.mpr hne
      cases hdraw : drawBelow? period bound g with
      | some drawn => exact draws_of_drawBelow? hbound hdraw
      | none =>
          obtain ⟨w, hw⟩ := exists_ofWord?_eq hbound
          obtain ⟨i, hi, hword⟩ := exists_word_eq hodd w
          have hrejected := rejected_of_drawBelow? hdraw hi
          rw [hword, hw] at hrejected
          cases hrejected

theorem draws_iff {g : Generator} (hodd : Odd g.increment) (bound n : UInt32) (g' : Generator) :
    (∃ k, Draws bound g k n g') ↔ below bound g = (n, g') := by
  obtain ⟨k, hbelow⟩ := draws_below hodd bound
  constructor
  · rintro ⟨j, h⟩
    obtain ⟨hn, hg⟩ := h.unique hbelow
    exact Prod.ext hn hg
  · intro h
    rw [h] at hbelow
    exact ⟨k, hbelow⟩

end Generator

/-! ## Cells -/

open Generator

/-- So many words are drawn, by pairs of numbers, and the last pair is the first that is not the start
cell. -/
inductive Places (size : UInt32) : Generator → Nat → Square → Generator → Prop where
  | keep {g g₁ g₂ : Generator} {j k : Nat} {x y : UInt32} (hx : Draws size g j x g₁)
      (hy : Draws size g₁ k y g₂) (hother : (⟨x, y⟩ : Square) ≠ .origin) :
      Places size g (j + k) ⟨x, y⟩ g₂
  | retry {g g₁ g₂ g₃ : Generator} {j k l : Nat} {x y : UInt32} {s : Square}
      (hx : Draws size g j x g₁) (hy : Draws size g₁ k y g₂)
      (horigin : (⟨x, y⟩ : Square) = .origin) (hrest : Places size g₂ l s g₃) :
      Places size g (j + k + l) s g₃

namespace Places

variable {size : UInt32} {g g' : Generator} {k : Nat} {s : Square}

theorem eq_iterate (h : Places size g k s g') : g' = step^[k] g := by
  induction h with
  | keep hx hy =>
      rw [hy.eq_iterate, hx.eq_iterate, ← Function.iterate_add_apply, Nat.add_comm]
  | retry hx hy _ _ ih =>
      rw [ih, hy.eq_iterate, hx.eq_iterate, ← Function.iterate_add_apply,
        ← Function.iterate_add_apply]
      congr 1
      omega

/-- The search has one end. -/
theorem unique (h : Places size g k s g') {j : Nat} {s' : Square} {g'' : Generator}
    (h' : Places size g j s' g'') : s' = s ∧ g'' = g' := by
  induction h generalizing j with
  | keep hx hy hother =>
      cases h' with
      | keep hx' hy' =>
          obtain ⟨rfl, rfl⟩ := hx.unique hx'
          obtain ⟨rfl, rfl⟩ := hy.unique hy'
          exact ⟨rfl, rfl⟩
      | retry hx' hy' horigin =>
          obtain ⟨rfl, rfl⟩ := hx.unique hx'
          obtain ⟨rfl, rfl⟩ := hy.unique hy'
          exact absurd horigin hother
  | retry hx hy horigin _ ih =>
      cases h' with
      | keep hx' hy' hother =>
          obtain ⟨rfl, rfl⟩ := hx.unique hx'
          obtain ⟨rfl, rfl⟩ := hy.unique hy'
          exact absurd horigin hother
      | retry hx' hy' _ hrest' =>
          obtain ⟨rfl, rfl⟩ := hx.unique hx'
          obtain ⟨rfl, rfl⟩ := hy.unique hy'
          exact ih hrest'

end Places

/-- On a board with fewer than two cells on a side only the start cell is drawn. -/
theorem Generator.Draws.eq_zero {size n : UInt32} {g g' : Generator} {k : Nat}
    (h : Draws size g k n g') (hsize : ¬ 2 ≤ size) : n = 0 := by
  by_cases hzero : size = 0
  · cases h with
    | empty => rfl
    | accept hbound => exact absurd hzero (UInt32.pos_iff_ne_zero.mp hbound)
    | reject hbound => exact absurd hzero (UInt32.pos_iff_ne_zero.mp hbound)
  · have hpositive : 0 < size := UInt32.pos_iff_ne_zero.mpr hzero
    have hlt := lt_of_ofWord? hpositive (h.ofWord?_lastWord hpositive)
    rw [UInt32.le_iff_toNat_le, show (2 : UInt32).toNat = 2 from rfl] at hsize
    rw [UInt32.lt_iff_toNat_lt] at hlt
    apply UInt32.toNat_inj.mp
    rw [show (0 : UInt32).toNat = 0 from rfl]
    omega

theorem Places.two_le {size : UInt32} {g g' : Generator} {k : Nat} {s : Square}
    (h : Places size g k s g') : 2 ≤ size := by
  by_contra hsize
  induction h with
  | keep hx hy hother =>
      rw [hx.eq_zero hsize, hy.eq_zero hsize] at hother
      exact hother rfl
  | retry _ _ _ _ ih => exact ih

section Search

variable {size : UInt32} {g : Generator}

theorem odd_increment_below (hodd : Odd g.increment) (size : UInt32) :
    Odd (below size g).2.increment := by
  obtain ⟨k, hdraws⟩ := draws_below hodd size
  rwa [hdraws.eq_iterate, increment_iterate_step]

theorem drawTarget?_succ (fuel : Nat) (size : UInt32) (g : Generator) :
    drawTarget? (fuel + 1) size g =
      if (⟨(below size g).1, (below size (below size g).2).1⟩ : Square) = .origin then
        drawTarget? fuel size (below size (below size g).2).2
      else
        some (⟨(below size g).1, (below size (below size g).2).1⟩,
          (below size (below size g).2).2) := rfl

theorem places_of_drawTarget? (hodd : Odd g.increment) {fuel : Nat} {s : Square} {g' : Generator}
    (hdraw : drawTarget? fuel size g = some (s, g')) : ∃ k, Places size g k s g' := by
  induction fuel generalizing g with
  | zero => cases hdraw
  | succ fuel ih =>
      have hodd' := odd_increment_below hodd size
      obtain ⟨j, hx⟩ := draws_below hodd size
      obtain ⟨k, hy⟩ := draws_below hodd' size
      rw [drawTarget?_succ] at hdraw
      split at hdraw
      · next horigin =>
          obtain ⟨l, hrest⟩ := ih (odd_increment_below hodd' size) hdraw
          exact ⟨j + k + l, .retry hx hy horigin hrest⟩
      · next hother =>
          obtain ⟨rfl, rfl⟩ := Prod.mk.inj (Option.some.inj hdraw)
          exact ⟨j + k, .keep hx hy hother⟩

/-- A search that comes to its limit has drawn at least as many words, and none of them gives a number
other than zero. -/
theorem zero_of_drawTarget? (hodd : Odd g.increment) (hsize : 0 < size) {fuel : Nat}
    (hdraw : drawTarget? fuel size g = none) {i : Nat} (hi : i < fuel) {n : UInt32}
    (hword : ofWord? size (step^[i] g).word.1 = some n) : n = 0 := by
  induction fuel generalizing g i with
  | zero => exact absurd hi (Nat.not_lt_zero i)
  | succ fuel ih =>
      have hodd' := odd_increment_below hodd size
      obtain ⟨j, hx⟩ := draws_below hodd size
      obtain ⟨k, hy⟩ := draws_below hodd' size
      rw [drawTarget?_succ] at hdraw
      split at hdraw
      · next horigin =>
          obtain ⟨hx0, hy0⟩ := Square.mk.inj horigin
          -- The word is one of those for `x`, or for `y`, or for a later cell.
          by_cases hij : i < j
          · exact (hx.passed hij hword).trans hx0
          · obtain ⟨i, rfl⟩ := Nat.exists_eq_add_of_le' (Nat.le_of_not_lt hij)
            rw [Function.iterate_add_apply, ← hx.eq_iterate] at hword
            by_cases hik : i < k
            · exact (hy.passed hik hword).trans hy0
            · obtain ⟨i, rfl⟩ := Nat.exists_eq_add_of_le' (Nat.le_of_not_lt hik)
              rw [Function.iterate_add_apply, ← hy.eq_iterate] at hword
              have hpos := hx.pos hsize
              exact ih (odd_increment_below hodd' size) hdraw (by omega) hword
      · cases hdraw

/-- **The search for a cell ends**, since one of the words of the cycle gives one. -/
theorem places_drawTarget (hodd : Odd g.increment) (hsize : 2 ≤ size) :
    ∃ k, Places size g k (drawTarget size g).1 (drawTarget size g).2 := by
  rw [drawTarget]
  cases hdraw : drawTarget? period size g with
  | some drawn => exact places_of_drawTarget? hodd hdraw
  | none =>
      have hone : 1 < size := UInt32.lt_of_lt_of_le (by decide) hsize
      obtain ⟨w, hw⟩ := exists_ofWord?_eq hone
      obtain ⟨i, hi, hword⟩ := exists_word_eq hodd w
      rw [← hword] at hw
      exact absurd (zero_of_drawTarget? hodd (UInt32.lt_trans (by decide) hone) hdraw hi hw)
        (by decide)

theorem places_iff (hodd : Odd g.increment) (size : UInt32) (s : Square) (g' : Generator) :
    (∃ k, Places size g k s g') ↔ 2 ≤ size ∧ drawTarget size g = (s, g') := by
  constructor
  · rintro ⟨j, h⟩
    obtain ⟨k, htarget⟩ := places_drawTarget hodd h.two_le
    obtain ⟨hs, hg⟩ := h.unique htarget
    exact ⟨h.two_le, Prod.ext hs hg⟩
  · rintro ⟨hsize, h⟩
    obtain ⟨k, htarget⟩ := places_drawTarget hodd hsize
    rw [h] at htarget
    exact ⟨k, htarget⟩

/-- The generator takes steps for a target, and nothing else. -/
theorem exists_drawTarget_eq_iterate (hodd : Odd g.increment) (size : UInt32) :
    ∃ k, (drawTarget size g).2 = step^[k] g := by
  rw [drawTarget]
  cases hdraw : drawTarget? period size g with
  | some drawn =>
      obtain ⟨k, hplaces⟩ := places_of_drawTarget? hodd hdraw
      exact ⟨k, hplaces.eq_iterate⟩
  | none => exact ⟨0, rfl⟩

theorem exists_afterTargets_eq_iterate (hodd : Odd g.increment) (size : UInt32) (plays : Nat) :
    ∃ words, afterTargets size plays g = step^[words] g := by
  induction plays generalizing g with
  | zero => exact ⟨0, rfl⟩
  | succ plays ih =>
      obtain ⟨k, htarget⟩ := exists_drawTarget_eq_iterate hodd size
      have hodd' : Odd (step^[k] g).increment := by rwa [increment_iterate_step]
      obtain ⟨words, hwords⟩ := ih hodd'
      refine ⟨words + k, ?_⟩
      rw [afterTargets, htarget, hwords, Function.iterate_add_apply]

end Search

/-- **The search for a target ends.**  From every state that draws of words lead to from a seed, those
that plays lead to among them, the search for a number ends, whatever the bound, and the search for a
cell ends exactly if there are two cells on a side; and they end with what the game draws. -/
theorem target_search_ends (seed : UInt64) (size : UInt32) :
    (∀ plays, ∃ words, afterTargets size plays (ofSeed seed) = step^[words] (ofSeed seed)) ∧
      ∀ words,
        let g := step^[words] (ofSeed seed)
        (∀ bound n g', (∃ k, Draws bound g k n g') ↔ below bound g = (n, g')) ∧
          ((∃ k s g', Places size g k s g') ↔ 2 ≤ size) ∧
          ∀ s g', (∃ k, Places size g k s g') ↔ 2 ≤ size ∧ drawTarget size g = (s, g') := by
  have hseed := odd_increment_ofSeed seed
  refine ⟨exists_afterTargets_eq_iterate hseed size, ?_⟩
  intro words g
  have hodd : Odd g.increment := by rwa [increment_iterate_step]
  refine ⟨draws_iff hodd, ⟨?_, ?_⟩, places_iff hodd size⟩
  · rintro ⟨k, s, g', h⟩
    exact h.two_le
  · intro hsize
    obtain ⟨k, h⟩ := places_drawTarget hodd hsize
    exact ⟨k, _, _, h⟩

end StepScript
