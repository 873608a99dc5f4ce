import StepScript.Proofs.Script.Integers
import StepScript.Proofs.Text.Words
set_option autoImplicit false

/-!
# Scripts: spellings of an integer

An integer is spelled in a radix with a sign, the mark of the radix, zeros in front if any, and its
digits in either case.  A spelling read gives the integer back if it is among those read in the
radix: then every spelling in either radix is as good as the other, and so is its upper case.

Main statements: `Radix.value_of_toDigits`, `Spells.integerPrefix?_eq` and `Spells.inUpperCase`.
-/

namespace StepScript

/-- The spellings of an integer in a radix. -/
inductive Spells (r : Radix) (v : Int) : List Char → Prop where
  | mk {sign mark digits : List Char} (zeros : Nat) (sign_mem : sign ∈ signs)
      (nonpos : sign = ['-'] → v ≤ 0) (nonneg : sign ≠ ['-'] → 0 ≤ v) (mark_mem : mark ∈ r.marks)
      (digits_eq : digits.map asciiLower = Nat.toDigits r.base v.natAbs) :
      Spells r v (sign ++ (mark ++ (List.replicate zeros '0' ++ digits)))

/-! ## Letter case -/

theorem isAscii_asciiLower (c : Char) : isAscii (asciiLower c) = isAscii c := by
  by_cases hletter : 'A' ≤ c ∧ c ≤ 'Z'
  · have hascii : isAscii c = true := isAscii_of_le (d := 'Z') rfl hletter.2
    exact forall_isAscii (P := fun c => isAscii (asciiLower c) = isAscii c) (by decide) hascii
  · rw [asciiLower, if_neg hletter]

theorem map_asciiLower_upperCase {cs : List Char} (h : ∀ c ∈ cs, isAscii c = true) :
    (upperCase cs).map asciiLower = cs.map asciiLower := by
  induction cs with
  | nil => rfl
  | cons c cs ih =>
      rw [List.forall_mem_cons] at h
      have hc : (upperChar c).map asciiLower = [asciiLower c] :=
        forall_isAscii (P := fun c => (upperChar c).map asciiLower = [asciiLower c]) (by decide) h.1
      rw [upperCase_cons, List.map_append, hc, ih h.2, List.map_cons, List.singleton_append]

namespace Radix

theorem isDigit_asciiLower (r : Radix) (c : Char) : r.isDigit (asciiLower c) = r.isDigit c := by
  cases hascii : isAscii c with
  | true =>
      cases r <;> exact forall_isAscii
        (P := fun c => isDigit _ (asciiLower c) = isDigit _ c) (by decide) hascii
  | false =>
      have hlower := (isAscii_asciiLower c).trans hascii
      rw [Bool.eq_false_iff.mpr fun h => Bool.eq_false_iff.mp hlower (isAscii_of_isDigit h),
        Bool.eq_false_iff.mpr fun h => Bool.eq_false_iff.mp hascii (isAscii_of_isDigit h)]

theorem hexDigitValue_asciiLower (c : Char) : hexDigitValue (asciiLower c) = hexDigitValue c := by
  by_cases hletter : 'A' ≤ c ∧ c ≤ 'Z'
  · have hascii : isAscii c = true := isAscii_of_le (d := 'Z') rfl hletter.2
    exact forall_isAscii
      (P := fun c => hexDigitValue (asciiLower c) = hexDigitValue c) (by decide) hascii
  · rw [asciiLower, if_neg hletter]

/-! ## Digits -/

theorem one_lt_base (r : Radix) : 1 < r.base := by
  cases r <;> decide

theorem isDigit_digitChar {r : Radix} {d : Nat} (h : d < r.base) :
    r.isDigit (Nat.digitChar d) = true ∧ hexDigitValue (Nat.digitChar d) = d := by
  have hall : ∀ r : Radix, ∀ d < r.base,
      r.isDigit (Nat.digitChar d) = true ∧ hexDigitValue (Nat.digitChar d) = d := by
    rintro (_ | _) <;> decide
  exact hall r d h

/-- A digit printed, in either case. -/
theorem isDigit_of_asciiLower {r : Radix} {c : Char} {d : Nat} (hd : d < r.base)
    (h : asciiLower c = Nat.digitChar d) : r.isDigit c = true ∧ hexDigitValue c = d := by
  rw [← isDigit_asciiLower, ← hexDigitValue_asciiLower, h]
  exact isDigit_digitChar hd

theorem value_append (r : Radix) (front : List Char) (c : Char) :
    r.value (front ++ [c]) = r.base * r.value front + hexDigitValue c := by
  rw [value_eq_foldl, value_eq_foldl, List.foldl_append]
  rfl

/-- Zeros in front count for nothing. -/
theorem value_replicate_append (r : Radix) (zeros : Nat) (digits : List Char) :
    r.value (List.replicate zeros '0' ++ digits) = r.value digits := by
  rw [value, value, List.map_append, List.map_replicate, List.reverse_append,
    List.reverse_replicate]
  exact Nat.ofDigits_append_replicate_zero _

/-- **The digits printed have the value again**, in either case. -/
theorem value_of_toDigits {r : Radix} {digits : List Char} {n : Nat}
    (h : digits.map asciiLower = Nat.toDigits r.base n) :
    (∀ c ∈ digits, r.isDigit c = true) ∧ r.value digits = n := by
  -- The last digit is the remainder, and the others spell the quotient.
  induction n using Nat.strongRecOn generalizing digits with
  | ind n ih =>
      rw [Nat.toDigits_eq_if r.one_lt_base] at h
      split at h
      · next hlt =>
          obtain ⟨c, rfl, hc⟩ := List.map_eq_singleton_iff.mp h
          obtain ⟨hdigit, hvalue⟩ := isDigit_of_asciiLower hlt hc
          refine ⟨List.forall_mem_singleton.mpr hdigit, ?_⟩
          rw [← List.nil_append [c], value_append, hvalue]
          exact Nat.zero_add n
      · next hge =>
          obtain ⟨front, last, rfl, hfront, hlast⟩ := List.map_eq_append_iff.mp h
          obtain ⟨c, rfl, hc⟩ := List.map_eq_singleton_iff.mp hlast
          have hpos : 0 < r.base := Nat.lt_trans Nat.zero_lt_one r.one_lt_base
          obtain ⟨hdigit, hvalue⟩ := isDigit_of_asciiLower (Nat.mod_lt n hpos) hc
          obtain ⟨hdigits, hquotient⟩ := ih (n / r.base)
            (Nat.div_lt_self (by omega) r.one_lt_base) hfront
          refine ⟨List.forall_mem_append.mpr ⟨hdigits, List.forall_mem_singleton.mpr hdigit⟩, ?_⟩
          rw [value_append, hquotient, hvalue]
          exact Nat.div_add_mod n r.base

/-- The digits are printed in lower case. -/
theorem map_asciiLower_toDigits (r : Radix) (n : Nat) :
    (Nat.toDigits r.base n).map asciiLower = Nat.toDigits r.base n := by
  have hlower : ∀ r : Radix, ∀ d < r.base, asciiLower (Nat.digitChar d) = Nat.digitChar d := by
    rintro (_ | _) <;> decide
  induction n using Nat.strongRecOn with
  | ind n ih =>
      rw [Nat.toDigits_eq_if r.one_lt_base]
      split
      · next hlt => rw [List.map_singleton, hlower r n hlt]
      · next hge =>
          have hpos : 0 < r.base := Nat.lt_trans Nat.zero_lt_one r.one_lt_base
          rw [List.map_append, List.map_singleton, hlower r _ (Nat.mod_lt n hpos),
            ih (n / r.base) (Nat.div_lt_self (by omega) r.one_lt_base)]

end Radix

/-! ## Spellings -/

/-- A text of no more than these parts has them. -/
theorem IntegerParts.of_digits {r : Radix} {sign mark digits : List Char} (hsign : sign ∈ signs)
    (hmark : mark ∈ r.marks) (hdigits : ∀ c ∈ digits, r.isDigit c = true) :
    IntegerParts (sign ++ (mark ++ digits)) r sign digits [] where
  sign_mem := hsign
  text := ⟨mark, hmark, by rw [List.append_nil]⟩
  isDigit := hdigits
  signed := by
    have hmarks : ∀ mark ∈ r.marks, mark.any isSign = false := by cases r <;> decide
    rintro rfl c hc
    rw [List.nil_append] at hc
    rcases List.mem_append.mp (List.mem_of_mem_head? hc) with hc | hc
    · exact Bool.eq_false_iff.mpr (List.any_eq_false.mp (hmarks mark hmark) c hc)
    · exact Radix.isSign_eq_false_of_isDigit (hdigits c hc)
  marked := by
    -- A hexadecimal mark has a letter, and decimal digits have none.
    have hletters : ∀ mark ∈ Radix.hexadecimal.marks,
        mark.all Radix.decimal.isDigit = false := by decide
    rintro rfl other hother hstarts
    rw [List.append_nil] at hstarts
    exact Bool.eq_false_iff.mp (hletters other hother)
      (List.all_eq_true.mpr fun c hc => hdigits c (hstarts.subset hc))
  maximal := stopsAt_nil _

namespace Spells

variable {r : Radix} {v : Int} {text : List Char}

/-- Every integer has a spelling in either radix. -/
theorem exists_spelling (r : Radix) (v : Int) : ∃ text, Spells r v text := by
  obtain ⟨mark, hmark⟩ : ∃ mark, mark ∈ r.marks := by
    cases r <;> exact ⟨_, List.mem_cons_self⟩
  have hdigits := r.map_asciiLower_toDigits v.natAbs
  by_cases hneg : v < 0
  · exact ⟨_, .mk 0 (by decide : ['-'] ∈ signs) (fun _ => by omega) (absurd rfl) hmark hdigits⟩
  · exact ⟨_, .mk 0 (by decide : [] ∈ signs) nofun (fun _ => by omega) hmark hdigits⟩

/-- A spelling has no rest. -/
theorem exists_integerParts (h : Spells r v text) :
    ∃ sign digits, IntegerParts text r sign digits [] ∧ digits ≠ [] ∧
      withSign (sign = ['-']) (r.value digits) = v := by
  obtain @⟨sign, mark, digits, zeros, hsign, hnonpos, hnonneg, hmark, hdigits⟩ := h
  obtain ⟨hall, hvalue⟩ := Radix.value_of_toDigits hdigits
  have hrun : ∀ c ∈ List.replicate zeros '0' ++ digits, r.isDigit c = true := by
    refine List.forall_mem_append.mpr ⟨fun c hc => ?_, hall⟩
    rw [List.eq_of_mem_replicate hc]
    cases r <;> rfl
  refine ⟨sign, _, .of_digits hsign hmark hrun, fun hnil => ?_, ?_⟩
  · rw [(List.append_eq_nil_iff.mp hnil).2] at hdigits
    exact Nat.toDigits_ne_nil hdigits.symm
  · rw [Radix.value_replicate_append, hvalue, withSign_sign]
    split
    · next hminus =>
        have := hnonpos hminus
        omega
    · next hplus =>
        have := hnonneg hplus
        omega

/-- **A spelling gives the integer back** if it is among those read. -/
theorem integerPrefix?_eq (h : Spells r v text) :
    integerPrefix? text = if r.Holds v then some v else none := by
  obtain ⟨sign, digits, hparts, hdigits, hvalue⟩ := h.exists_integerParts
  rw [hparts.integerPrefix?_eq, hvalue]
  exact if_congr (and_iff_right hdigits) rfl rfl

/-- **The upper case of a spelling** is a spelling. -/
theorem inUpperCase (h : Spells r v text) : Spells r v (upperCase text) := by
  obtain @⟨sign, mark, digits, zeros, hsign, hnonpos, hnonneg, hmark, hdigits⟩ := h
  have hsigns : ∀ sign ∈ signs, upperCase sign = sign := by decide
  have hmarks : ∀ mark ∈ r.marks, upperCase mark ∈ r.marks := by cases r <;> decide
  have hzeros : upperCase (List.replicate zeros '0') = List.replicate zeros '0' := by
    rw [upperCase, List.flatMap_replicate]
    exact List.flatten_replicate_singleton
  have hascii : ∀ c ∈ digits, isAscii c = true := fun c hc =>
    Radix.isAscii_of_isDigit ((Radix.value_of_toDigits hdigits).1 c hc)
  rw [upperCase_append, upperCase_append, upperCase_append, hsigns sign hsign, hzeros]
  refine .mk zeros hsign hnonpos hnonneg (hmarks mark hmark) ?_
  rw [map_asciiLower_upperCase hascii, hdigits]

end Spells

end StepScript
