import Mathlib.Data.List.DropRight
import StepScript.Number.Literal
import StepScript.Text.UpperCase
import StepScript.Text.WhiteSpace
set_option autoImplicit false

/-!
# Text: what upper case and trimming do to words

The words of a text are read off its upper case, after a trim.  Neither gets in the way: a trim takes
no word with it, and the upper case of a text has the upper cases of its words.  The second needs that
upper case keeps white space and makes none, which is read off the table.

Main statements: `words_trim`, `words_upperCase` and `words_eq_filter_splitOnP`, by which the words
are the pieces between white space that are not empty; `upperChar_asciiLower`, by which upper case
does not tell letters apart that differ in ASCII case.
-/

namespace StepScript

/-! ## White space by code point -/

/-- The code points of white space. -/
def whiteCodes : List Nat :=
  [0x09, 0x0A, 0x0B, 0x0C, 0x0D, 0x20, 0x85, 0xA0, 0x1680, 0x2000, 0x2001, 0x2002, 0x2003, 0x2004,
    0x2005, 0x2006, 0x2007, 0x2008, 0x2009, 0x200A, 0x2028, 0x2029, 0x202F, 0x205F, 0x3000]

theorem isWhiteSpace_iff (c : Char) : isWhiteSpace c = true ↔ c.toNat ∈ whiteCodes := by
  simp only [isWhiteSpace, whiteCodes, Bool.or_eq_true, Bool.and_eq_true, decide_eq_true_eq,
    beq_iff_eq, List.mem_cons, List.not_mem_nil, or_false]
  omega

/-- A number that is no code point of white space is none of its characters. -/
theorem isWhiteSpace_ofNat_of_not_mem {n : Nat} (h : n ∉ whiteCodes) :
    isWhiteSpace (Char.ofNat n) = false := by
  by_cases hvalid : n.isValidChar
  · have hcode : (Char.ofNat n).toNat = n := by
      rw [Char.ofNat, dif_pos hvalid]
      rfl
    rw [Bool.eq_false_iff]
    intro hwhite
    rw [isWhiteSpace_iff, hcode] at hwhite
    exact h hwhite
  · rw [Char.ofNat, dif_neg hvalid]
    rfl

/-! ## Upper case, one character at a time -/

/-- White space is its own upper case. -/
theorem upperChar_of_white {c : Char} (h : isWhiteSpace c = true) : upperChar c = [c] := by
  have hall : ∀ n ∈ whiteCodes, upperChar (Char.ofNat n) = [Char.ofNat n] := by decide +kernel
  have hc := hall c.toNat ((isWhiteSpace_iff c).mp h)
  rwa [Char.ofNat_toNat] at hc

/-- No run of the table ends up among white space. -/
theorem shifted_not_white {run : CaseRun} (hrun : run ∈ upperRuns) {code : Nat}
    (hcode : run.contains code = true) : (code + run.shift).toNat ∉ whiteCodes := by
  have hclear : ∀ run ∈ upperRuns, ∀ n ∈ whiteCodes,
      (n : Int) < run.first + run.shift ∨ run.last + run.shift < (n : Int) := by decide +kernel
  intro hmem
  have hapart := hclear run hrun _ hmem
  have hpositive : ∀ n ∈ whiteCodes, 0 < n := by decide
  have hshifted := hpositive _ hmem
  simp only [CaseRun.contains, Bool.and_eq_true, decide_eq_true_eq] at hcode
  omega

/-- Upper case of a character that is not white space: one character or more, and none of them white
space. -/
theorem upperChar_of_not_white {c : Char} (h : isWhiteSpace c = false) :
    upperChar c ≠ [] ∧ ∀ d ∈ upperChar c, isWhiteSpace d = false := by
  by_cases hascii : c.toNat < 128
  · rw [upperChar, if_pos hascii]
    refine ⟨List.cons_ne_nil _ _, ?_⟩
    intro d hd
    rw [List.mem_singleton.mp hd]
    split
    · next hletter =>
        have hfirst : 'a'.toNat ≤ c.toNat := UInt32.le_iff_toNat_le.mp (Char.le_def.mp hletter.1)
        have hlast : c.toNat ≤ 'z'.toNat := UInt32.le_iff_toNat_le.mp (Char.le_def.mp hletter.2)
        have hupper : 65 ≤ c.toNat - 32 ∧ c.toNat - 32 ≤ 90 := by
          rw [show 'a'.toNat = 97 from rfl] at hfirst
          rw [show 'z'.toNat = 122 from rfl] at hlast
          omega
        have hclear : ∀ n ∈ whiteCodes, ¬ (65 ≤ n ∧ n ≤ 90) := by decide
        exact isWhiteSpace_ofNat_of_not_mem fun hwhite => hclear _ hwhite hupper
    · exact h
  · rw [upperChar, if_neg hascii]
    split
    · next entry hfind =>
        have hsequences : ∀ entry ∈ upperSequences, entry.2 ≠ [] ∧ ∀ code ∈ entry.2,
            isWhiteSpace (Char.ofNat code) = false := by decide +kernel
        obtain ⟨hsome, hclear⟩ := hsequences entry (List.mem_of_find?_eq_some hfind)
        refine ⟨fun hnil => hsome (List.map_eq_nil_iff.mp hnil), ?_⟩
        intro d hd
        obtain ⟨code, hcode, rfl⟩ := List.mem_map.mp hd
        exact hclear code hcode
    · split
      · next run hfind =>
          have hcode : run.contains c.toNat = true :=
            List.find?_some (p := fun run : CaseRun => run.contains c.toNat) hfind
          have hclear := shifted_not_white (List.mem_of_find?_eq_some hfind) hcode
          refine ⟨List.cons_ne_nil _ _, ?_⟩
          intro d hd
          rw [List.mem_singleton.mp hd]
          exact isWhiteSpace_ofNat_of_not_mem hclear
      · refine ⟨List.cons_ne_nil _ _, ?_⟩
        intro d hd
        rwa [List.mem_singleton.mp hd]

theorem upperChar_ne_nil (c : Char) : upperChar c ≠ [] := by
  cases h : isWhiteSpace c with
  | true =>
      rw [upperChar_of_white h]
      exact List.cons_ne_nil _ _
  | false => exact (upperChar_of_not_white h).1

/-- Upper case does not see the case of an ASCII letter. -/
theorem upperChar_asciiLower (c : Char) : upperChar (asciiLower c) = upperChar c := by
  by_cases hletter : 'A' ≤ c ∧ c ≤ 'Z'
  · have hall : ∀ n < 128, upperChar (asciiLower (Char.ofNat n)) = upperChar (Char.ofNat n) := by
      decide +kernel
    have hascii : c.toNat ≤ 'Z'.toNat := UInt32.le_iff_toNat_le.mp (Char.le_def.mp hletter.2)
    have hc := hall c.toNat (Nat.lt_of_le_of_lt hascii (by decide))
    rwa [Char.ofNat_toNat] at hc
  · rw [asciiLower, if_neg hletter]

theorem upperCase_map_asciiLower (cs : List Char) :
    upperCase (cs.map asciiLower) = upperCase cs := by
  induction cs with
  | nil => rfl
  | cons c cs ih => rw [List.map_cons, upperCase_cons, upperCase_cons, upperChar_asciiLower, ih]

theorem isEmpty_upperCase (cs : List Char) : (upperCase cs).isEmpty = cs.isEmpty := by
  cases cs with
  | nil => rfl
  | cons c cs => simp [upperChar_ne_nil]

/-! ## Words -/

theorem words_eq_ite (cs : List Char) :
    words cs = if (wordsFrom cs).1.isEmpty then (wordsFrom cs).2
      else (wordsFrom cs).1 :: (wordsFrom cs).2 := rfl

/-- The open word takes in what stands before it and is not white space. -/
theorem wordsFrom_append_of_not_white {front : List Char}
    (h : ∀ c ∈ front, isWhiteSpace c = false) (cs : List Char) :
    wordsFrom (front ++ cs) = (front ++ (wordsFrom cs).1, (wordsFrom cs).2) := by
  induction front with
  | nil => rfl
  | cons c front ih =>
      have hc := h c List.mem_cons_self
      have hfront := ih fun d hd => h d (List.mem_cons_of_mem c hd)
      rw [List.cons_append, wordsFrom_cons_of_not_white hc, hfront, List.cons_append]

/-- White space at the end makes no word and ends none. -/
theorem wordsFrom_append_of_white {back : List Char} (h : ∀ c ∈ back, isWhiteSpace c = true)
    (cs : List Char) : wordsFrom (cs ++ back) = wordsFrom cs := by
  have hback : wordsFrom back = ([], []) := by
    induction back with
    | nil => rfl
    | cons c back ih =>
        have hrest := ih fun d hd => h d (List.mem_cons_of_mem c hd)
        rw [wordsFrom_cons_of_white (h c List.mem_cons_self), words, hrest]
        rfl
  induction cs with
  | nil => rw [List.nil_append, hback]; rfl
  | cons c cs ih => rw [List.cons_append, wordsFrom, wordsFrom, ih]

theorem words_dropWhile (cs : List Char) : words (cs.dropWhile isWhiteSpace) = words cs := by
  induction cs with
  | nil => rfl
  | cons c cs ih =>
      rw [List.dropWhile_cons]
      split
      · next hc => rw [ih, words_cons_of_white hc]
      · rfl

/-- **A trim takes no word with it.** -/
theorem words_trim (cs : List Char) : words (trim cs) = words cs := by
  have hends : words ((cs.dropWhile isWhiteSpace).rdropWhile isWhiteSpace) =
      words (cs.dropWhile isWhiteSpace) := by
    have hwhite := wordsFrom_append_of_white
      (fun c hc => List.mem_rtakeWhile_imp (l := cs.dropWhile isWhiteSpace) hc)
      ((cs.dropWhile isWhiteSpace).rdropWhile isWhiteSpace)
    rw [List.rdropWhile_append_rtakeWhile] at hwhite
    rw [words, words, hwhite]
  exact hends.trans (words_dropWhile cs)

/-- What goes for the open word and for the others goes for the words. -/
theorem words_upperCase_of_wordsFrom {cs : List Char}
    (h : wordsFrom (upperCase cs) = (upperCase (wordsFrom cs).1, (wordsFrom cs).2.map upperCase)) :
    words (upperCase cs) = (words cs).map upperCase := by
  rw [words_eq_ite, words_eq_ite, h, isEmpty_upperCase, apply_ite (List.map upperCase),
    List.map_cons]

theorem wordsFrom_upperCase (cs : List Char) :
    wordsFrom (upperCase cs) =
      (upperCase (wordsFrom cs).1, (wordsFrom cs).2.map upperCase) := by
  induction cs with
  | nil => rfl
  | cons c cs ih =>
      cases hc : isWhiteSpace c with
      | true =>
          rw [upperCase_cons, upperChar_of_white hc, List.singleton_append,
            wordsFrom_cons_of_white hc, wordsFrom_cons_of_white hc, words_upperCase_of_wordsFrom ih]
          rfl
      | false =>
          rw [upperCase_cons, wordsFrom_append_of_not_white (upperChar_of_not_white hc).2,
            wordsFrom_cons_of_not_white hc, ih, upperCase_cons]

/-- **The upper case of a text has the upper cases of its words.** -/
theorem words_upperCase (cs : List Char) : words (upperCase cs) = (words cs).map upperCase :=
  words_upperCase_of_wordsFrom (wordsFrom_upperCase cs)

/-- The words of a text are the pieces between its white space that are not empty. -/
theorem words_eq_filter_splitOnP (cs : List Char) :
    words cs = (cs.splitOnP isWhiteSpace).filter (fun piece => !piece.isEmpty) := by
  -- The first piece is the word still open, so it goes by itself.
  have hpieces : ∃ pieces, cs.splitOnP isWhiteSpace = (wordsFrom cs).1 :: pieces ∧
      (wordsFrom cs).2 = pieces.filter (fun piece => !piece.isEmpty) := by
    induction cs with
    | nil => exact ⟨[], List.splitOnP_nil, rfl⟩
    | cons c cs ih =>
        obtain ⟨pieces, hsplit, hothers⟩ := ih
        rw [List.splitOnP_cons_eq_if_modifyHead, hsplit]
        cases hc : isWhiteSpace c with
        | true =>
            refine ⟨(wordsFrom cs).1 :: pieces, by rw [if_pos rfl, wordsFrom_cons_of_white hc], ?_⟩
            rw [wordsFrom_cons_of_white hc, words_eq_ite, hothers, List.filter_cons]
            cases (wordsFrom cs).1.isEmpty <;> rfl
        | false =>
            refine ⟨pieces, ?_, by rw [wordsFrom_cons_of_not_white hc, hothers]⟩
            rw [if_neg Bool.false_ne_true, wordsFrom_cons_of_not_white hc, List.modifyHead_cons]
  obtain ⟨pieces, hsplit, hothers⟩ := hpieces
  rw [words_eq_ite, hsplit, hothers, List.filter_cons]
  cases (wordsFrom cs).1.isEmpty <;> rfl

end StepScript
