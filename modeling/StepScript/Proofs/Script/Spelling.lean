import Mathlib.Data.List.GetD
import StepScript.Proofs.Text.Words
import StepScript.Script.Basic
set_option autoImplicit false

/-!
# Scripts: spelling

Two texts have the same words if they have so line by line, ASCII case and white space aside.  Their
scripts then have the same tokens, and differ in the sources of their lines at most.

Main statements: `splitLines_eq_splitOn` and `length_splitLines`, what the lines of a text are;
`tokens_ofText`, by which the tokens of a line are read off its words; `SameWords.sourceless_eq`.
-/

namespace StepScript

/-! ## Lines -/

theorem splitLines_eq_splitOn (cs : List Char) : splitLines cs = cs.splitOn '\n' := by
  induction cs with
  | nil => rfl
  | cons c cs ih =>
      rw [List.splitOn_cons_eq_if_modifyHead, splitLines, ih]
      by_cases hc : c = '\n'
      · rw [if_pos hc, if_pos (beq_iff_eq.mpr hc)]
      · rw [if_neg hc, if_neg (mt beq_iff_eq.mp hc)]
        cases hpieces : cs.splitOn '\n' with
        | nil => exact absurd hpieces (List.splitOnP_ne_nil _ cs)
        | cons piece pieces => rfl

/-- Each line feed ends a line, and the text ends the last one. -/
theorem length_splitLines (cs : List Char) : (splitLines cs).length = cs.count '\n' + 1 := by
  induction cs with
  | nil => rfl
  | cons c cs ih =>
      rw [splitLines, List.count_cons]
      by_cases hc : c = '\n'
      · rw [if_pos hc, if_pos (beq_iff_eq.mpr hc), List.length_cons, ih]
      · rw [if_neg hc, if_neg (mt beq_iff_eq.mp hc)]
        cases hpieces : splitLines cs with
        | nil => exact absurd hpieces (splitLines_ne_nil cs)
        | cons piece pieces =>
            rw [hpieces] at ih
            exact ih

/-! ## The same words -/

/-- The words of a line, its ASCII letters in lower case. -/
def foldedWords (line : List Char) : List (List Char) :=
  ((line.splitOnP isWhiteSpace).filter fun word => !word.isEmpty).map fun word =>
    word.map asciiLower

/-- The tokens of a line are the upper cases of its words. -/
theorem tokens_ofText_eq_map_words (raw : List Char) :
    (Line.ofText raw).tokens = (words raw).map fun word => String.ofList (upperCase word) := by
  change (words (upperCase (trim raw))).map String.ofList = _
  rw [words_upperCase, words_trim, List.map_map]
  rfl

/-- The words folded will do. -/
theorem tokens_ofText (raw : List Char) :
    (Line.ofText raw).tokens = (foldedWords raw).map fun word => String.ofList (upperCase word) := by
  rw [tokens_ofText_eq_map_words, foldedWords, ← words_eq_filter_splitOnP, List.map_map]
  refine List.map_congr_left fun word _ => ?_
  rw [Function.comp_apply, upperCase_map_asciiLower]

/-- Two texts with as many line feeds, and with the same words on each line, up to ASCII case. -/
structure SameWords (a b : String) : Prop where
  newlines : a.toList.count '\n' = b.toList.count '\n'
  words : ∀ i, foldedWords ((a.toList.splitOn '\n').getD i []) =
    foldedWords ((b.toList.splitOn '\n').getD i [])

/-- So the lists of the words of each line are equal. -/
theorem sameWords_iff (a b : String) :
    SameWords a b ↔
      (splitLines a.toList).map foldedWords = (splitLines b.toList).map foldedWords := by
  constructor
  · rintro ⟨hnewlines, hwords⟩
    have hlength : (splitLines a.toList).length = (splitLines b.toList).length := by
      rw [length_splitLines, length_splitLines, hnewlines]
    rw [← splitLines_eq_splitOn, ← splitLines_eq_splitOn] at hwords
    refine List.ext_getElem (by simpa using hlength) ?_
    intro i ha hb
    rw [List.length_map] at ha hb
    have hline := hwords i
    rw [List.getD_eq_getElem _ _ ha, List.getD_eq_getElem _ _ hb] at hline
    simpa using hline
  · intro h
    have hlength : (splitLines a.toList).length = (splitLines b.toList).length := by
      simpa using congrArg List.length h
    rw [length_splitLines, length_splitLines] at hlength
    refine ⟨Nat.succ.inj hlength, ?_⟩
    intro i
    have hline := congrArg (fun lines => lines.getD i (foldedWords [])) h
    simp only [List.getD_map] at hline
    rwa [← splitLines_eq_splitOn, ← splitLines_eq_splitOn]

instance (a b : String) : Decidable (SameWords a b) :=
  decidable_of_iff _ (sameWords_iff a b).symm

/-! ## Sources -/

/-- The same line without its source. -/
def Line.sourceless (l : Line) : Line := { l with source := "" }

/-- The same script without the sources of its lines. -/
def Script.sourceless (s : Script) : Script := ⟨s.lines.map Line.sourceless⟩

theorem Script.line?_sourceless (s : Script) (i : Nat) :
    s.sourceless.line? i = (s.line? i).map Line.sourceless :=
  List.getElem?_map

/-- Whether a script is blank is read off the tokens. -/
theorem Script.isBlank_sourceless (s : Script) : s.sourceless.isBlank = s.isBlank :=
  List.all_map

namespace SameWords

variable {a b : String} (h : SameWords a b)
include h

theorem tokens_eq :
    (Script.parse a).lines.map Line.tokens = (Script.parse b).lines.map Line.tokens := by
  have hlines (text : String) : (Script.parse text).lines.map Line.tokens =
      ((splitLines text.toList).map foldedWords).map fun line =>
        line.map fun word => String.ofList (upperCase word) := by
    rw [Script.parse, List.map_map, List.map_map]
    exact List.map_congr_left fun raw _ => tokens_ofText raw
  rw [hlines, hlines, (sameWords_iff a b).mp h]

/-- **The same words make the same script**, but for the sources of its lines. -/
theorem sourceless_eq : (Script.parse a).sourceless = (Script.parse b).sourceless := by
  have hscript (s : Script) : s.sourceless = ⟨(s.lines.map Line.tokens).map (Line.mk "")⟩ := by
    rw [List.map_map]
    rfl
  rw [hscript, hscript, h.tokens_eq]

/-- What is read off the tokens of a line is the same on lines with the same number. -/
theorem line?_map_eq {C : Type} {read : Line → C} (hread : ∀ l : Line, read l.sourceless = read l)
    (i : Nat) :
    ((Script.parse a).line? i).map read = ((Script.parse b).line? i).map read := by
  have hline (s : Script) : (s.line? i).map read = (s.sourceless.line? i).map read := by
    rw [Script.line?_sourceless, Option.map_map]
    exact congrArg (fun f => Option.map f _) (funext fun l => (hread l).symm)
  rw [hline (Script.parse a), hline (Script.parse b), h.sourceless_eq]

end SameWords

end StepScript
