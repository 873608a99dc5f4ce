import StepScript.Proofs.Script.Spelling
set_option autoImplicit false

/-!
# Scripts: texts joined, and texts without ink

Two texts with a line feed between them have the lines of the one and then those of the other.  A
line is blank exactly when it is all white space, and so is a script.

Main statements: `Script.lines_parse_append` and `Script.isBlank_parse`.
-/

namespace StepScript

/-! ## Two texts -/

/-- A line feed between two texts ends the last line of the first. -/
theorem splitLines_append_newline (a b : List Char) :
    splitLines (a ++ '\n' :: b) = splitLines a ++ splitLines b := by
  induction a with
  | nil => rfl
  | cons c a ih =>
      rw [List.cons_append, splitLines, splitLines, ih]
      split
      · rfl
      · cases hpieces : splitLines a with
        | nil => exact absurd hpieces (splitLines_ne_nil a)
        | cons piece pieces => rfl

/-- **The lines of two texts joined** by a line feed are those of the first and then those of the
second. -/
theorem Script.lines_parse_append (a b : String) :
    (parse (a ++ "\n" ++ b)).lines = (parse a).lines ++ (parse b).lines := by
  have htext : (a ++ "\n" ++ b).toList = a.toList ++ '\n' :: b.toList := by simp
  rw [parse, htext, splitLines_append_newline, List.map_append]
  rfl

/-! ## Blank lines -/

/-- A text has no words exactly when it is all white space. -/
theorem words_eq_nil_iff (cs : List Char) : words cs = [] ↔ cs.all isWhiteSpace = true := by
  induction cs with
  | nil => exact iff_of_true rfl rfl
  | cons c cs ih =>
      cases hc : isWhiteSpace c with
      | true => rw [words_cons_of_white hc, List.all_cons, hc, Bool.true_and, ih]
      | false =>
          have hword : words (c :: cs) = (c :: (wordsFrom cs).1) :: (wordsFrom cs).2 := by
            rw [words_eq_ite, wordsFrom_cons_of_not_white hc]
            rfl
          rw [hword, List.all_cons, hc]
          exact iff_of_false (List.cons_ne_nil _ _) Bool.false_ne_true

/-- A line is blank exactly when it is all white space. -/
theorem Line.isBlank_ofText (raw : List Char) : (ofText raw).isBlank = raw.all isWhiteSpace := by
  rw [Bool.eq_iff_iff, isBlank_iff, tokens_ofText_eq_map_words, List.map_eq_nil_iff,
    words_eq_nil_iff]

theorem all_splitLines (cs : List Char) :
    (splitLines cs).all (fun piece => piece.all isWhiteSpace) = cs.all isWhiteSpace := by
  induction cs with
  | nil => rfl
  | cons c cs ih =>
      rw [splitLines, List.all_cons, ← ih]
      by_cases hc : c = '\n'
      · -- A line feed is white space itself.
        rw [if_pos hc, hc]
        rfl
      · rw [if_neg hc]
        cases hpieces : splitLines cs with
        | nil => exact absurd hpieces (splitLines_ne_nil cs)
        | cons piece pieces => simp only [List.all_cons, Bool.and_assoc]

/-- **A script is blank exactly when its text is all white space.** -/
theorem Script.isBlank_parse (text : String) :
    (parse text).isBlank = text.toList.all isWhiteSpace := by
  rw [← all_splitLines, isBlank, parse, List.all_map]
  exact congrArg (fun p => (splitLines text.toList).all p) (funext Line.isBlank_ofText)

end StepScript
