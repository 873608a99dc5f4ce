import Mathlib.Algebra.Ring.Parity
import Mathlib.Data.BitVec
import Mathlib.Tactic.Ring
import StepScript.Game.Generator
set_option autoImplicit false

/-!
# The game: the cycle of the generator

The multiplier is one more than a multiple of four and the increment is odd.  Then `2 ^ k` steps add
an odd multiple of `2 ^ k` to the state, so each further bit can be set by taking that many steps or
none, and the generator goes through all its states.

Main statements: `exists_step_eq`, by which every state is reached from every other one, and
`exists_word_eq`, by which every word is drawn.
-/

namespace StepScript

namespace Generator

/-! ## Steps -/

theorem increment_step : ∀ g : Generator, g.step.increment = g.increment
  | ⟨_, _⟩ => rfl

theorem increment_iterate_step (g : Generator) (n : Nat) :
    (step^[n] g).increment = g.increment := by
  induction n generalizing g with
  | zero => rfl
  | succ n ih => rw [Function.iterate_succ_apply, ih, increment_step]

/-- What `2 ^ k` steps multiply the state by, and what they add to it then. -/
def doubled (c : BitVec 128) : Nat → BitVec 128 × BitVec 128
  | 0 => (multiplier, c)
  | k + 1 => ((doubled c k).1 ^ 2, (doubled c k).2 * ((doubled c k).1 + 1))

theorem state_iterate_two_pow (g : Generator) (k : Nat) :
    (step^[2 ^ k] g).state =
      g.state * (doubled g.increment k).1 + (doubled g.increment k).2 := by
  induction k generalizing g with
  | zero => rfl
  | succ k ih =>
      rw [pow_succ, mul_two, Function.iterate_add_apply, ih, ih, increment_iterate_step]
      simp only [doubled]
      ring

theorem doubled_eq {c : BitVec 128} (hodd : Odd c) (k : Nat) :
    ∃ a b : BitVec 128, (doubled c k).1 = 1 + 2 ^ (k + 2) * a ∧
      (doubled c k).2 = 2 ^ k * (2 * b + 1) := by
  induction k with
  | zero =>
      obtain ⟨b, hb⟩ := hodd
      have hmultiplier : multiplier = 1 + 2 ^ 2 * (multiplier >>> 2) := by decide
      exact ⟨multiplier >>> 2, b, hmultiplier, by simp [doubled, hb]⟩
  | succ k ih =>
      obtain ⟨a, b, ha, hb⟩ := ih
      refine ⟨a + 2 ^ (k + 1) * a ^ 2, b + 2 ^ k * a * (2 * b + 1), ?_, ?_⟩
      · simp only [doubled, ha]
        ring
      · simp only [doubled, ha, hb]
        ring

/-- `2 ^ k` steps change bit `k` of the state and none below it. -/
theorem state_iterate_two_pow_eq {g : Generator} (hodd : Odd g.increment) (k : Nat) :
    ∃ m, (step^[2 ^ k] g).state = g.state + 2 ^ k + 2 ^ (k + 1) * m := by
  obtain ⟨a, b, ha, hb⟩ := doubled_eq hodd k
  refine ⟨2 * a * g.state + b, ?_⟩
  rw [state_iterate_two_pow, ha, hb]
  ring

/-! ## States -/

theorem natCast_toNat (b : BitVec 128) : (b.toNat : BitVec 128) = b := by
  rw [BitVec.natCast_eq_ofNat, BitVec.ofNat_toNat, BitVec.setWidth_eq]

theorem even_or_odd (b : BitVec 128) : Even b ∨ Odd b := by
  rw [← natCast_toNat b]
  exact (Nat.even_or_odd b.toNat).imp Even.natCast Odd.natCast

/-- In fewer than `2 ^ k` steps the low `k` bits of the state are those of any state. -/
theorem exists_state_low_eq {g : Generator} (hodd : Odd g.increment) (s : BitVec 128) (k : Nat) :
    ∃ n < 2 ^ k, ∃ m, s = (step^[n] g).state + 2 ^ k * m := by
  induction k with
  | zero => exact ⟨0, Nat.one_pos, s - g.state, by simp⟩
  | succ k ih =>
      obtain ⟨n, hn, m, hm⟩ := ih
      rcases even_or_odd m with ⟨q, hq⟩ | ⟨q, hq⟩
      · refine ⟨n, hn.trans (Nat.pow_lt_pow_succ Nat.one_lt_two), q, ?_⟩
        rw [hm, hq]
        ring
      · -- Bit `k` differs: it takes `2 ^ k` steps more.
        have hodd' : Odd (step^[n] g).increment := by rwa [increment_iterate_step]
        obtain ⟨p, hp⟩ := state_iterate_two_pow_eq hodd' k
        refine ⟨2 ^ k + n, by rw [pow_succ]; omega, q - p, ?_⟩
        rw [Function.iterate_add_apply, hp, hm, hq]
        ring

/-- **The generator goes through all its states.** -/
theorem exists_step_eq {g : Generator} (hodd : Odd g.increment) (s : BitVec 128) :
    ∃ n < period, (step^[n] g).state = s := by
  obtain ⟨n, hn, m, hm⟩ := exists_state_low_eq hodd s 128
  have hzero : (2 : BitVec 128) ^ 128 = 0 := by decide +kernel
  refine ⟨n, hn, ?_⟩
  rw [hm, hzero]
  ring

/-! ## Words -/

/-- The word that a generator has put out last. -/
def lastWord (g : Generator) : BitVec 32 := g.output.truncate 32

theorem word_eq (g : Generator) : g.word = (g.step.lastWord, g.step) := rfl

/-- A state of 32 bits is put out as it is. -/
theorem lastWord_setWidth (w : BitVec 32) (c : BitVec 128) :
    lastWord ⟨w.setWidth 128, c⟩ = w := by
  have hshift (n : Nat) (hn : 32 ≤ n) : w.setWidth 128 >>> n = 0#128 := by
    apply BitVec.eq_of_toNat_eq
    have hlt : w.toNat < 2 ^ n := w.isLt.trans_le (Nat.pow_le_pow_right Nat.two_pos hn)
    rw [BitVec.toNat_ushiftRight, BitVec.toNat_setWidth, Nat.shiftRight_eq_div_pow,
      Nat.mod_eq_of_lt (w.isLt.trans (by decide)), Nat.div_eq_of_lt hlt]
    rfl
  simp only [lastWord, output, hshift 64 (by decide), hshift 122 (by decide)]
  simp [BitVec.rotateRight_def]

/-- **Every word is drawn** in the course of one cycle. -/
theorem exists_word_eq {g : Generator} (hodd : Odd g.increment) (w : BitVec 32) :
    ∃ n < period, (step^[n] g).word.1 = w := by
  have hodd' : Odd g.step.increment := by rwa [increment_step]
  obtain ⟨n, hn, hstate⟩ := exists_step_eq hodd' (w.setWidth 128)
  refine ⟨n, hn, ?_⟩
  have hnext : (step^[n] g).step = ⟨w.setWidth 128, (step^[n] g.step).increment⟩ := by
    rw [← hstate, ← Function.iterate_succ_apply' step n g, Function.iterate_succ_apply]
  rw [word_eq, hnext]
  exact lastWord_setWidth w _

/-! ## Seeds -/

theorem odd_or_one (b : BitVec 128) : Odd (b ||| 1) := by
  rw [← natCast_toNat (b ||| 1)]
  refine (Nat.odd_iff.mpr ?_).natCast
  rw [BitVec.toNat_or]
  exact Nat.or_mod_two_eq_one.mpr (.inr rfl)

/-- The increment of a seed is odd. -/
theorem odd_increment_ofSeed (seed : UInt64) : Odd (ofSeed seed).increment := by
  rw [ofSeed, increment_step]
  exact odd_or_one _

end Generator

end StepScript
