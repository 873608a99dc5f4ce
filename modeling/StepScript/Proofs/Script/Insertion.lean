import StepScript.Proofs.Script.Spelling
set_option autoImplicit false

/-!
# Scripts: a line put in

Main statement: `lines_insertLine`, the script of a text with a line put in.
-/

namespace StepScript

/-- The lines of a text hold no line feed. -/
theorem not_mem_of_mem_splitLines {cs piece : List Char} (h : piece ∈ splitLines cs) :
    '\n' ∉ piece := by
  induction cs generalizing piece with
  | nil =>
      obtain rfl := List.mem_singleton.mp h
      exact List.not_mem_nil
  | cons c cs ih =>
      rw [splitLines] at h
      split at h
      · rcases List.mem_cons.mp h with rfl | hrest
        · exact List.not_mem_nil
        · exact ih hrest
      · next hc =>
          split at h
          · next hpieces => exact absurd hpieces (splitLines_ne_nil cs)
          · next first pieces hpieces =>
              rw [hpieces] at ih
              rcases List.mem_cons.mp h with rfl | hrest
              · rw [List.mem_cons, not_or]
                exact ⟨Ne.symm hc, ih List.mem_cons_self⟩
              · exact ih (List.mem_cons_of_mem _ hrest)

/-- Lines joined are the lines of the text that they make. -/
theorem splitLines_intercalate {pieces : List (List Char)} (hsome : pieces ≠ [])
    (hpieces : ∀ piece ∈ pieces, '\n' ∉ piece) :
    splitLines (['\n'].intercalate pieces) = pieces := by
  rw [splitLines_eq_splitOn]
  exact List.splitOn_intercalate '\n' hpieces hsome

/-- The text with a line put in before the line with the number `j`. -/
def insertLine (text : String) (j : Nat) (line : String) : String :=
  let pieces := splitLines text.toList
  String.ofList (['\n'].intercalate (pieces.take j ++ line.toList :: pieces.drop j))

/-- **The script of a text with a line put in.** -/
theorem lines_insertLine (text : String) (j : Nat) {line : String} (hline : '\n' ∉ line.toList) :
    (Script.parse (insertLine text j line)).lines =
      (Script.parse text).lines.take j ++
        Line.ofText line.toList :: (Script.parse text).lines.drop j := by
  have hpieces : splitLines (insertLine text j line).toList =
      (splitLines text.toList).take j ++ line.toList :: (splitLines text.toList).drop j := by
    rw [insertLine, String.toList_ofList]
    refine splitLines_intercalate (List.append_ne_nil_of_right_ne_nil _ (List.cons_ne_nil _ _)) ?_
    intro piece hmem
    rcases List.mem_append.mp hmem with htake | hrest
    · exact not_mem_of_mem_splitLines (List.mem_of_mem_take htake)
    · rcases List.mem_cons.mp hrest with rfl | hdrop
      · exact hline
      · exact not_mem_of_mem_splitLines (List.mem_of_mem_drop hdrop)
  rw [Script.parse, hpieces, List.map_append, List.map_cons, List.map_take, List.map_drop]
  rfl

end StepScript
