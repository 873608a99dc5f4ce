import Mathlib.Data.Nat.Digits.Defs
import StepScript.Proofs.Number.Grammar
set_option autoImplicit false

/-!
# Scripts: digits of integers, and words

A run of digits has its value by positions.  A word of 64 bits that takes the digits up one by one
holds that value, with its sign, if any word does: on the way from zero the magnitude only grows, so
the range of the words is left at some digit exactly when the whole run is outside it.

Main statements: `Radix.value_eq_foldl` and `InPlace.parse?_ofList`.
-/

namespace StepScript

/-! ## Radices -/

/-- A radix in which integers are read. -/
inductive Radix where
  | decimal
  | hexadecimal
  deriving DecidableEq, Repr

namespace Radix

/-- The number of digits of a radix. -/
def base : Radix → Nat
  | decimal => 10
  | hexadecimal => 16

/-- The character is a digit of the radix. -/
def isDigit : Radix → Char → Bool
  | decimal => StepScript.isDigit
  | hexadecimal => isHexDigit

/-- The value of a run of digits by their positions, the last one the lowest. -/
def value (r : Radix) (digits : List Char) : Nat :=
  Nat.ofDigits r.base (digits.map hexDigitValue).reverse

theorem value_eq_foldl (r : Radix) (digits : List Char) :
    r.value digits = digits.foldl (fun n c => r.base * n + hexDigitValue c) 0 := by
  rw [value, Nat.ofDigits_eq_foldr, List.foldr_reverse, List.foldl_map]
  exact List.foldl_ext _ _ _ fun n c _ => Nat.add_comm _ _

theorem hexDigitValue_of_isDigit {c : Char} (h : StepScript.isDigit c = true) :
    hexDigitValue c = digitValue c := by
  rw [hexDigitValue, if_pos h]

theorem value_hexadecimal (digits : List Char) : hexadecimal.value digits = hexDigitsValue digits :=
  value_eq_foldl hexadecimal digits

theorem value_decimal {digits : List Char} (h : ∀ c ∈ digits, StepScript.isDigit c = true) :
    decimal.value digits = digitsValue digits := by
  rw [value_eq_foldl]
  exact List.foldl_ext _ _ _ fun n c hc => by rw [hexDigitValue_of_isDigit (h c hc), base]

theorem isAscii_of_isDigit {r : Radix} {c : Char} (h : r.isDigit c = true) : isAscii c = true := by
  cases r with
  | decimal => exact StepScript.isAscii_of_isDigit h
  | hexadecimal => exact isAscii_of_isHexDigit h

theorem isSign_eq_false_of_isDigit {r : Radix} {c : Char} (h : r.isDigit c = true) :
    isSign c = false := by
  cases r with
  | decimal => exact StepScript.isSign_eq_false_of_isDigit h
  | hexadecimal => exact isSign_eq_false_of_isHexDigit h

/-- A digit has a value below the radix. -/
theorem digit?_of_isDigit {r : Radix} {c : Char} (h : r.isDigit c = true) :
    InPlace.digit? r.base c = some (hexDigitValue c) := by
  cases r <;> exact forall_isAscii
    (P := fun c => isDigit _ c = true → InPlace.digit? _ c = some (hexDigitValue c))
    (by decide) (isAscii_of_isDigit h) h

end Radix

/-- A magnitude with its sign. -/
def withSign (negative : Bool) (magnitude : Nat) : Int :=
  if negative then -(magnitude : Int) else magnitude

/-! ## Words -/

namespace InPlace

theorem word?_eq_some_iff {v : Int} {word : Int64} : word? v = some word ↔ word.toInt = v := by
  rw [word?, Int64.toInt_minValue, Int64.toInt_maxValue]
  split
  · next hrange =>
      have hword : (Int64.ofInt v).toInt = v := Int64.toInt_ofInt_of_le hrange.1 (by omega)
      rw [Option.some_inj, ← Int64.toInt_inj, hword, eq_comm]
  · next hrange =>
      refine iff_of_false nofun ?_
      rintro rfl
      have := word.toInt_lt
      exact hrange ⟨word.le_toInt, by omega⟩

theorem word?_eq_none_iff {v : Int} : word? v = none ↔ v < -2 ^ 63 ∨ 2 ^ 63 - 1 < v := by
  rw [word?, Int64.toInt_minValue, Int64.toInt_maxValue]
  split
  · exact iff_of_false nofun (by omega)
  · exact iff_of_true rfl (by omega)

theorem map_toInt_word? (v : Int) :
    (word? v).map Int64.toInt = if -2 ^ 63 ≤ v ∧ v ≤ 2 ^ 63 - 1 then some v else none := by
  cases hword : word? v with
  | none =>
      rw [word?_eq_none_iff] at hword
      rw [if_neg (by omega), Option.map_none]
  | some word =>
      have hrange : ¬ word? v = none := by simp [hword]
      rw [word?_eq_none_iff] at hrange
      rw [if_pos (by omega), Option.map_some, word?_eq_some_iff.mp hword]

/-- Past the range of the words there is no way back. -/
theorem word?_withSign_of_le {negative : Bool} {m n : Nat} (hle : m ≤ n)
    (h : word? (withSign negative m) = none) : word? (withSign negative n) = none := by
  rw [word?_eq_none_iff] at h ⊢
  cases negative with
  | true => simp only [withSign, if_true] at h ⊢; omega
  | false => simp only [withSign, Bool.false_eq_true, if_false] at h ⊢; omega

section Digits

variable {r : Radix} {negative : Bool}

/-- One digit is taken up if a word holds the result. -/
theorem shiftIn?_eq {word : Int64} {n : Nat} {c : Char} (hword : word.toInt = withSign negative n)
    (hc : r.isDigit c = true) :
    shiftIn? r.base negative word c =
      word? (withSign negative (r.base * n + hexDigitValue c)) := by
  have hproduct : word.toInt * r.base = withSign negative (r.base * n) := by
    rw [hword]
    cases negative <;> simp [withSign, mul_comm]
  have hsum : (if negative then withSign negative (r.base * n) - hexDigitValue c
      else withSign negative (r.base * n) + hexDigitValue c) =
        withSign negative (r.base * n + hexDigitValue c) := by
    cases negative with
    | true => simp only [withSign, if_true]; omega
    | false => simp only [withSign, Bool.false_eq_true, if_false]; omega
  simp only [shiftIn?, Radix.digit?_of_isDigit hc, Option.bind_eq_bind, Option.bind_some, hproduct]
  cases hshifted : word? (withSign negative (r.base * n)) with
  | none => rw [Option.bind_none, word?_withSign_of_le (Nat.le_add_right _ _) hshifted]
  | some product => rw [Option.bind_some, word?_eq_some_iff.mp hshifted, hsum]

theorem le_foldl_digits (r : Radix) (digits : List Char) (n : Nat) :
    n ≤ digits.foldl (fun n c => r.base * n + hexDigitValue c) n := by
  induction digits generalizing n with
  | nil => exact Nat.le_refl n
  | cons c digits ih =>
      have hbase : 1 ≤ r.base := by cases r <;> decide
      calc n ≤ r.base * n := Nat.le_mul_of_pos_left n hbase
        _ ≤ r.base * n + hexDigitValue c := Nat.le_add_right _ _
        _ ≤ _ := ih _

/-- **All digits are taken up if a word holds the result.** -/
theorem foldlM_shiftIn? {digits : List Char} (hdigits : ∀ c ∈ digits, r.isDigit c = true) {n : Nat}
    {word : Int64} (hword : word.toInt = withSign negative n) :
    digits.foldlM (shiftIn? r.base negative) word =
      word? (withSign negative (digits.foldl (fun n c => r.base * n + hexDigitValue c) n)) := by
  induction digits generalizing n word with
  | nil => exact (word?_eq_some_iff.mpr hword).symm
  | cons c digits ih =>
      rw [List.forall_mem_cons] at hdigits
      rw [List.foldlM_cons, shiftIn?_eq hword hdigits.1, List.foldl_cons]
      cases hnext : word? (withSign negative (r.base * n + hexDigitValue c)) with
      | none => exact (word?_withSign_of_le (le_foldl_digits r digits _) hnext).symm
      | some next => exact ih hdigits.2 (word?_eq_some_iff.mp hnext)

end Digits

/-- **A whole text of digits is parsed** if a word holds the integer. -/
theorem parse?_ofList {r : Radix} {sign digits : List Char} (hsign : sign ∈ signs)
    (hdigits : ∀ c ∈ digits, r.isDigit c = true) :
    parse? r.base (String.ofList (sign ++ digits)) =
      if digits = [] then none else word? (withSign (sign = ['-']) (r.value digits)) := by
  have hstop : StopsAt isSign digits := fun c hc =>
    Radix.isSign_eq_false_of_isDigit (hdigits c (List.mem_of_mem_head? hc))
  have hzero : (0 : Int64).toInt = withSign (sign = ['-']) 0 := by
    cases (sign = ['-'] : Bool) <;> rfl
  simp only [parse?, String.toList_ofList, splitSign_append_of_mem hsign fun _ => hstop,
    List.isEmpty_iff, foldlM_shiftIn? hdigits hzero, Radix.value_eq_foldl]

end InPlace

end StepScript
