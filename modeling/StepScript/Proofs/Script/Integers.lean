import Mathlib.Data.List.TakeWhile
import StepScript.Proofs.Script.Digits
set_option autoImplicit false

/-!
# Scripts: what is read of an integer operand

Every token is a sign or none, the mark of a radix, all the digits of that radix that follow, and a
rest.  The digits decide: there is an integer if there are any and their value is in range, which is
the range of the words with decimal digits, and that of the words and their negations with
hexadecimal ones.  Read in place the same comes out, and no step is without a result.

Main statements: `exists_integerParts`, `IntegerParts.integerPrefix?_eq`, `InPlace.map_integer` and
`readsInteger`.
-/

namespace StepScript

/-! ## The parts of a token -/

namespace Radix

/-- The texts that mark a radix. -/
def marks : Radix → List (List Char)
  | decimal => [[]]
  | hexadecimal => [['0', 'x'], ['0', 'X']]

/-- The integers that are read in a radix. -/
def Holds : Radix → Int → Prop
  | decimal, v => -2 ^ 63 ≤ v ∧ v ≤ 2 ^ 63 - 1
  | hexadecimal, v => v.natAbs ≤ 2 ^ 63 - 1

instance (r : Radix) (v : Int) : Decidable (r.Holds v) := by
  cases r <;> unfold Holds <;> infer_instance

end Radix

theorem afterHexMark?_append {mark : List Char} (hmark : mark ∈ Radix.hexadecimal.marks)
    (tail : List Char) : afterHexMark? (mark ++ tail) = some tail := by
  simp only [Radix.marks, List.mem_cons, List.not_mem_nil, or_false] at hmark
  rcases hmark with rfl | rfl <;> rfl

theorem exists_mark_of_afterHexMark? {cs tail : List Char} (h : afterHexMark? cs = some tail) :
    ∃ mark ∈ Radix.hexadecimal.marks, cs = mark ++ tail := by
  unfold afterHexMark? at h
  split at h
  · cases h
    exact ⟨['0', 'x'], by decide, rfl⟩
  · cases h
    exact ⟨['0', 'X'], by decide, rfl⟩
  · cases h

theorem afterHexMark?_eq_none_iff {cs : List Char} :
    afterHexMark? cs = none ↔ ∀ mark ∈ Radix.hexadecimal.marks, ¬ mark <+: cs := by
  constructor
  · rintro h mark hmark ⟨tail, rfl⟩
    rw [afterHexMark?_append hmark] at h
    cases h
  · intro h
    cases hafter : afterHexMark? cs with
    | none => rfl
    | some tail =>
        obtain ⟨mark, hmark, rfl⟩ := exists_mark_of_afterHexMark? hafter
        exact absurd (List.prefix_append mark tail) (h mark hmark)

/-- The parts of a token that an integer is read from. -/
structure IntegerParts (token : List Char) (r : Radix) (sign digits rest : List Char) : Prop where
  sign_mem : sign ∈ signs
  text : ∃ mark ∈ r.marks, token = sign ++ (mark ++ (digits ++ rest))
  isDigit : ∀ c ∈ digits, r.isDigit c = true
  /-- No sign is left out, ... -/
  signed : sign = [] → StopsAt isSign token
  /-- nor a mark, ... -/
  marked : r = .decimal → ∀ mark ∈ Radix.hexadecimal.marks, ¬ mark <+: digits ++ rest
  /-- nor a digit. -/
  maximal : StopsAt r.isDigit rest

/-- **Every token has these parts.** -/
theorem exists_integerParts (token : List Char) :
    ∃ r sign digits rest, IntegerParts token r sign digits rest := by
  have htoken := splitSign_append token
  have hsign := splitSign_fst_mem token
  have hsigned : (splitSign token).1 = [] → StopsAt isSign token := stopsAt_isSign_of_splitSign
  cases hafter : afterHexMark? (splitSign token).2 with
  | some tail =>
      obtain ⟨mark, hmark, hbody⟩ := exists_mark_of_afterHexMark? hafter
      refine ⟨.hexadecimal, _, tail.takeWhile isHexDigit, tail.dropWhile isHexDigit, hsign,
        ⟨mark, hmark, ?_⟩, fun c hc => List.mem_takeWhile_imp hc, hsigned, nofun,
        stopsAt_dropWhile _ _⟩
      rw [List.takeWhile_append_dropWhile, ← hbody, htoken]
  | none =>
      refine ⟨.decimal, _, (splitSign token).2.takeWhile isDigit,
        (splitSign token).2.dropWhile isDigit, hsign, ⟨[], List.mem_singleton.mpr rfl, ?_⟩,
        fun c hc => List.mem_takeWhile_imp hc, hsigned, fun _ => ?_, stopsAt_dropWhile _ _⟩
      · rw [List.takeWhile_append_dropWhile, List.nil_append, htoken]
      · rw [List.takeWhile_append_dropWhile]
        exact afterHexMark?_eq_none_iff.mp hafter

/-! ## The integer -/

theorem natAbs_withSign (negative : Bool) (magnitude : Nat) :
    (withSign negative magnitude).natAbs = magnitude := by
  cases negative <;> simp [withSign]

theorem withSign_sign (sign : List Char) (magnitude : Nat) :
    withSign (sign = ['-']) magnitude = if sign = ['-'] then -(magnitude : Int) else magnitude := by
  rw [withSign]
  exact if_congr decide_eq_true_iff rfl rfl

namespace IntegerParts

variable {token sign digits rest : List Char}

/-- What follows the sign, and starts with no other. -/
theorem exists_body {r : Radix} (h : IntegerParts token r sign digits rest) :
    ∃ mark ∈ r.marks, token = sign ++ (mark ++ (digits ++ rest)) ∧
      (sign = [] → StopsAt isSign (mark ++ (digits ++ rest))) := by
  obtain ⟨mark, hmark, htext⟩ := h.text
  refine ⟨mark, hmark, htext, fun hnil => ?_⟩
  have hsigned := h.signed hnil
  rwa [htext, hnil] at hsigned

/-- **The digits decide.** -/
theorem integerPrefix?_eq {r : Radix} (h : IntegerParts token r sign digits rest) :
    integerPrefix? token =
      if digits ≠ [] ∧ r.Holds (withSign (sign = ['-']) (r.value digits)) then
        some (withSign (sign = ['-']) (r.value digits))
      else none := by
  obtain ⟨mark, hmark, htext, hsigned⟩ := h.exists_body
  have hsplit := splitSign_append_of_mem h.sign_mem hsigned
  rw [← htext] at hsplit
  cases r with
  | hexadecimal =>
      have hrun : (digits ++ rest).takeWhile isHexDigit = digits :=
        h.maximal.takeWhile_append h.isDigit
      simp only [integerPrefix?, hsplit, afterHexMark?_append hmark, hrun, Radix.Holds,
        natAbs_withSign, ← withSign_sign, ← Radix.value_hexadecimal]
      have hrange : (digits.isEmpty || 2 ^ 63 ≤ Radix.hexadecimal.value digits) = true ↔
          ¬ (digits ≠ [] ∧ Radix.hexadecimal.value digits ≤ 2 ^ 63 - 1) := by
        rw [Bool.or_eq_true, List.isEmpty_iff, decide_eq_true_eq, not_and_or, not_not, not_le]
        exact or_congr_right (by omega)
      exact (if_congr hrange rfl rfl).trans (ite_not _ _ _)
  | decimal =>
      obtain rfl := List.mem_singleton.mp hmark
      have hrun : (digits ++ rest).takeWhile StepScript.isDigit = digits :=
        h.maximal.takeWhile_append h.isDigit
      simp only [integerPrefix?, hsplit, List.nil_append, hrun,
        afterHexMark?_eq_none_iff.mpr (h.marked rfl), Radix.Holds, ← withSign_sign,
        ← Radix.value_decimal h.isDigit, Int64.toInt_minValue, Int64.toInt_maxValue]
      generalize withSign (sign = ['-']) (Radix.decimal.value digits) = v
      have hrange : (digits.isEmpty || decide (v < -2 ^ 63) || decide (2 ^ 63 - 1 < v)) = true ↔
          ¬ (digits ≠ [] ∧ -2 ^ 63 ≤ v ∧ v ≤ 2 ^ 63 - 1) := by
        rw [Bool.or_eq_true, Bool.or_eq_true, List.isEmpty_iff, decide_eq_true_eq,
          decide_eq_true_eq, not_and_or, not_and_or, not_not, not_le, not_le, or_assoc]
      exact (if_congr hrange rfl rfl).trans (ite_not _ _ _)

end IntegerParts

/-! ## Reading in place -/

namespace InPlace

variable {token sign digits rest : List Char}

theorem isAscii_of_mem_signs (h : sign ∈ signs) : ∀ c ∈ sign, isAscii c = true := by
  have hall : ∀ sign ∈ signs, sign.all isAscii = true := by decide
  exact List.all_eq_true.mp (hall sign h)

theorem isAscii_of_mem_marks {mark : List Char} (h : mark ∈ Radix.hexadecimal.marks) :
    ∀ c ∈ mark, isAscii c = true := by
  have hall : ∀ mark ∈ Radix.hexadecimal.marks, mark.all isAscii = true := by decide
  exact List.all_eq_true.mp (hall mark h)

theorem splitSign_bytes (hsign : sign ∈ signs) {body : List Char}
    (hsigned : sign = [] → StopsAt isSign body) :
    splitSign (bytes (String.ofList (sign ++ body))) = (sign, bytes (String.ofList body)) := by
  have hsigns : ∀ c, isSign c = true → isAscii c = true := by
    intro c hc
    simp only [isSign, Bool.or_eq_true, decide_eq_true_eq] at hc
    rcases hc with rfl | rfl <;> rfl
  rw [bytes_ofList_append (isAscii_of_mem_signs hsign)]
  exact splitSign_append_of_mem hsign fun hnil => stopsAt_bytes hsigns (hsigned hnil)

/-- The least word has no negation, and no magnitude is that word. -/
theorem exists_applySign (negative : Bool) {magnitude : Int64} {n : Nat}
    (h : magnitude.toInt = n) :
    ∃ word, applySign negative magnitude = .ok word ∧ word.toInt = withSign negative n := by
  cases negative with
  | false => exact ⟨magnitude, rfl, h⟩
  | true =>
      rw [applySign, if_pos rfl, negate, h]
      cases hword : word? (-(n : Int)) with
      | none =>
          have := magnitude.toInt_lt
          rw [word?_eq_none_iff] at hword
          omega
      | some negated => exact ⟨negated, rfl, word?_eq_some_iff.mp hword⟩

/-- A hexadecimal magnitude is read if it is a word, whatever the sign. -/
theorem holds_hexadecimal_iff (negative : Bool) (n : Nat) :
    Radix.hexadecimal.Holds (withSign negative n) ↔ word? n ≠ none := by
  rw [Radix.Holds, natAbs_withSign, Ne, word?_eq_none_iff]
  omega

/-- A hexadecimal integer is cut out without its sign and parsed, and can then be negated. -/
theorem map_integer_of_hexadecimal (h : IntegerParts token .hexadecimal sign digits rest) :
    (integer (String.ofList token)).map (Option.map Int64.toInt) = .ok (integerPrefix? token) := by
  rw [h.integerPrefix?_eq]
  obtain ⟨mark, hmark, htext, hsigned⟩ := h.exists_body
  have hmarked := isAscii_of_mem_marks hmark
  have hlengths : ∀ mark ∈ Radix.hexadecimal.marks, mark.length = 2 := by decide
  have hsplit : splitSign (bytes (String.ofList token)) =
      (sign, mark ++ bytes (String.ofList (digits ++ rest))) := by
    rw [htext, splitSign_bytes h.sign_mem hsigned, bytes_ofList_append hmarked]
  have hunmarked : cutAt (String.ofList token) (sign.length + 2) =
      .ok (String.ofList (sign ++ mark), String.ofList (digits ++ rest)) := by
    have hcut := cutAt_ofList (List.forall_mem_append.mpr
      ⟨isAscii_of_mem_signs h.sign_mem, hmarked⟩) (digits ++ rest)
    rwa [List.length_append, hlengths mark hmark, List.append_assoc, ← htext] at hcut
  have hrun : (bytes (String.ofList (digits ++ rest))).takeWhile isHexDigit = digits := by
    rw [takeWhile_bytes fun _ => isAscii_of_isHexDigit]
    exact h.maximal.takeWhile_append h.isDigit
  have hdigits := cutAt_ofList (fun c hc => isAscii_of_isHexDigit (h.isDigit c hc)) rest
  have hparse : parse? 16 (String.ofList digits) =
      if digits = [] then none else word? (Radix.hexadecimal.value digits) :=
    @parse?_ofList .hexadecimal [] _ List.mem_cons_self h.isDigit
  simp only [integer, hsplit, afterHexMark?_append hmark, hunmarked, hrun, hdigits, hparse, bind,
    Except.bind]
  by_cases hnil : digits = []
  · rw [if_pos hnil, if_neg fun hread => hread.1 hnil]
    rfl
  rw [if_neg hnil]
  have hholds := holds_hexadecimal_iff (sign = ['-']) (Radix.hexadecimal.value digits)
  cases hword : word? (Radix.hexadecimal.value digits) with
  | none =>
      rw [if_neg fun hread => hholds.mp hread.2 hword]
      rfl
  | some magnitude =>
      obtain ⟨word, hsign, hvalue⟩ :=
        exists_applySign (sign = ['-']) (word?_eq_some_iff.mp hword)
      rw [if_pos ⟨hnil, hholds.mpr (by simp [hword])⟩, ← hvalue]
      simp only [hsign]
      rfl

/-- A decimal integer is cut out with its sign and parsed. -/
theorem map_integer_of_decimal (h : IntegerParts token .decimal sign digits rest) :
    (integer (String.ofList token)).map (Option.map Int64.toInt) = .ok (integerPrefix? token) := by
  rw [h.integerPrefix?_eq]
  obtain ⟨_, hmark, htext, hsigned⟩ := h.exists_body
  obtain rfl := List.mem_singleton.mp hmark
  have hsplit : splitSign (bytes (String.ofList token)) =
      (sign, bytes (String.ofList (digits ++ rest))) := by
    rw [htext, splitSign_bytes h.sign_mem hsigned, List.nil_append]
  have hunmarked : afterHexMark? (bytes (String.ofList (digits ++ rest))) = none := by
    refine afterHexMark?_eq_none_iff.mpr fun mark hmark hprefix => h.marked rfl mark hmark ?_
    rwa [prefix_bytes_iff (isAscii_of_mem_marks hmark)] at hprefix
  have hrun : (bytes (String.ofList (digits ++ rest))).takeWhile StepScript.isDigit = digits := by
    rw [takeWhile_bytes fun _ => isAscii_of_isDigit]
    exact h.maximal.takeWhile_append h.isDigit
  have hliteral : cutAt (String.ofList token) (sign.length + digits.length) =
      .ok (String.ofList (sign ++ digits), String.ofList rest) := by
    have hcut := cutAt_ofList (List.forall_mem_append.mpr
      ⟨isAscii_of_mem_signs h.sign_mem, fun c hc => isAscii_of_isDigit (h.isDigit c hc)⟩) rest
    rwa [List.length_append, List.append_assoc, ← List.nil_append (digits ++ rest),
      ← htext] at hcut
  have hparse : parse? 10 (String.ofList (sign ++ digits)) =
      if digits = [] then none else
        word? (withSign (sign = ['-']) (Radix.decimal.value digits)) :=
    @parse?_ofList .decimal _ _ h.sign_mem h.isDigit
  simp only [integer, hsplit, hunmarked, hrun, hliteral, hparse, bind, Except.bind,
    List.isEmpty_iff]
  by_cases hnil : digits = []
  · rw [if_pos hnil, if_neg fun hread => hread.1 hnil]
    rfl
  rw [if_neg hnil, if_neg hnil]
  refine congrArg Except.ok ((map_toInt_word? _).trans ?_)
  exact if_congr (and_iff_right hnil).symm rfl rfl

/-- **Reading in place gives the same**, and every step has a result. -/
theorem map_integer (token : String) :
    (integer token).map (Option.map Int64.toInt) = .ok (integerPrefix? token.toList) := by
  obtain ⟨r, _, _, _, hparts⟩ := exists_integerParts token.toList
  rw [← token.ofList_toList, String.toList_ofList]
  cases r with
  | hexadecimal => exact map_integer_of_hexadecimal hparts
  | decimal => exact map_integer_of_decimal hparts

end InPlace

/-! ## What a token gives -/

/-- What is read of a token as an integer. -/
structure ReadsInteger (token : String) : Prop where
  /-- A token has a sign or none, the mark of its radix, the run of digits and a rest. -/
  parts : ∃ r sign digits rest, IntegerParts token.toList r sign digits rest
  /-- With a hexadecimal mark the run is read, with the sign, if it is not empty and its value is a
  word; the zero of the mark is never read instead. -/
  hexadecimal : ∀ sign digits rest, IntegerParts token.toList .hexadecimal sign digits rest →
    integerPrefix? token.toList =
      if digits ≠ [] ∧ Radix.hexadecimal.value digits ≤ 2 ^ 63 - 1 then
        some (withSign (sign = ['-']) (Radix.hexadecimal.value digits))
      else none
  /-- Without one the run is read if it is not empty and its signed value is a word. -/
  decimal : ∀ sign digits rest, IntegerParts token.toList .decimal sign digits rest →
    integerPrefix? token.toList =
      if digits ≠ [] ∧ -2 ^ 63 ≤ withSign (sign = ['-']) (Radix.decimal.value digits) ∧
          withSign (sign = ['-']) (Radix.decimal.value digits) ≤ 2 ^ 63 - 1 then
        some (withSign (sign = ['-']) (Radix.decimal.value digits))
      else none
  /-- The rest does not matter: another token that differs in it alone is read alike. -/
  followed : ∀ r sign digits rest, IntegerParts token.toList r sign digits rest →
    ∀ token' rest', IntegerParts token' r sign digits rest' →
      integerPrefix? token' = integerPrefix? token.toList
  /-- Read in place the same comes out: no cut is inside a character, no negation without a word and
  no run too long for the words that take it up. -/
  inPlace : (InPlace.integer token).map (Option.map Int64.toInt) = .ok (integerPrefix? token.toList)

/-- **Every token is read as its radix, its sign and its run of digits say.** -/
theorem readsInteger (token : String) : ReadsInteger token where
  parts := exists_integerParts token.toList
  hexadecimal sign digits rest hparts := by
    have hholds : Radix.hexadecimal.Holds
        (withSign (sign = ['-']) (Radix.hexadecimal.value digits)) ↔
          Radix.hexadecimal.value digits ≤ 2 ^ 63 - 1 := by
      rw [Radix.Holds, natAbs_withSign]
    rw [hparts.integerPrefix?_eq]
    exact if_congr (and_congr_right' hholds) rfl rfl
  decimal sign digits rest hparts := hparts.integerPrefix?_eq
  followed r sign digits rest hparts token' rest' hparts' := by
    rw [hparts.integerPrefix?_eq, hparts'.integerPrefix?_eq]
  inPlace := InPlace.map_integer token

end StepScript
