import StepScript.Panel.Basic
import StepScript.Proofs.Run.Machine
import StepScript.Proofs.Script.Lines
set_option autoImplicit false

/-!
# Scripts: where the lines of a text stand

The script of a text has one line for each piece between line feeds, in the same order.  A carriage
return at the end of a piece is white space at its end, so it goes away with the trim, and texts
with either kind of line ending have the same lines.

Main statement: `Script.standsBy_text`.
-/

namespace StepScript

/-! ## Carriage returns -/

/-- A text with a carriage return put in before some of its line feeds, or at its end. -/
inductive GainsReturns : List Char → List Char → Prop
  | nil : GainsReturns [] []
  | atEnd : GainsReturns [] ['\r']
  | keep (c : Char) {cs ds : List Char} (h : GainsReturns cs ds) : GainsReturns (c :: cs) (c :: ds)
  | beforeFeed {cs ds : List Char} (h : GainsReturns cs ds) :
      GainsReturns ('\n' :: cs) ('\r' :: '\n' :: ds)

/-- The same piece, or the piece with a carriage return at its end. -/
def EndsAlike (piece piece' : List Char) : Prop := piece' = piece ∨ piece' = piece ++ ['\r']

theorem splitLines_cons_of_piece {c : Char} {cs piece : List Char} {pieces : List (List Char)}
    (hc : c ≠ '\n') (hpieces : splitLines cs = piece :: pieces) :
    splitLines (c :: cs) = (c :: piece) :: pieces := by
  rw [splitLines, if_neg hc, hpieces]

/-- A text that gains carriage returns gains them at the ends of its pieces. -/
theorem GainsReturns.endsAlike {cs ds : List Char} (h : GainsReturns cs ds) :
    List.Forall₂ EndsAlike (splitLines cs) (splitLines ds) := by
  induction h with
  | nil => exact .cons (.inl rfl) .nil
  | atEnd => exact .cons (.inr rfl) .nil
  | @keep c cs ds h ih =>
      by_cases hc : c = '\n'
      · rw [splitLines, splitLines, if_pos hc, if_pos hc]
        exact .cons (.inl rfl) ih
      · cases hpieces : splitLines cs with
        | nil => exact absurd hpieces (splitLines_ne_nil cs)
        | cons piece pieces =>
            cases hpieces' : splitLines ds with
            | nil => exact absurd hpieces' (splitLines_ne_nil ds)
            | cons piece' pieces' =>
                rw [hpieces, hpieces', List.forall₂_cons] at ih
                rw [splitLines_cons_of_piece hc hpieces, splitLines_cons_of_piece hc hpieces']
                refine .cons ?_ ih.2
                rcases ih.1 with rfl | rfl
                · exact .inl rfl
                · exact .inr rfl
  | @beforeFeed cs ds h ih =>
      have hfeed : splitLines ('\n' :: ds) = [] :: splitLines ds := by rw [splitLines, if_pos rfl]
      rw [splitLines_cons_of_piece (by decide) hfeed, splitLines, if_pos rfl]
      exact .cons (.inr rfl) ih

/-- White space at the end goes away with a trim. -/
theorem trim_append_of_white {c : Char} (hc : isWhiteSpace c = true) (cs : List Char) :
    trim (cs ++ [c]) = trim cs := by
  rw [trim, trim, List.dropWhile_append]
  split
  · next hempty =>
      rw [List.isEmpty_iff.mp hempty, List.dropWhile_cons_of_pos hc, List.dropWhile_nil]
  · rw [List.reverse_append, List.reverse_singleton, List.singleton_append,
      List.dropWhile_cons_of_pos hc]

/-- A carriage return at the end of a piece is no part of its line. -/
theorem EndsAlike.ofText_eq {piece piece' : List Char} (h : EndsAlike piece piece') :
    Line.ofText piece' = Line.ofText piece := by
  rcases h with rfl | rfl
  · rfl
  · have htrim : trim (piece ++ ['\r']) = trim piece := trim_append_of_white rfl piece
    rw [Line.ofText, htrim]
    rfl

theorem map_ofText_eq_of_endsAlike {pieces pieces' : List (List Char)}
    (h : List.Forall₂ EndsAlike pieces pieces') :
    pieces'.map Line.ofText = pieces.map Line.ofText := by
  induction h with
  | nil => rfl
  | cons halike _ ih => rw [List.map_cons, List.map_cons, halike.ofText_eq, ih]

/-- **Carriage returns at the ends of lines change no line.** -/
theorem Script.lines_eq_of_gainsReturns {a b : String} (h : GainsReturns a.toList b.toList) :
    (parse b).lines = (parse a).lines :=
  map_ofText_eq_of_endsAlike h.endsAlike

/-! ## Texts without ink -/

/-- A panel that is free refuses exactly the texts that are all white space. -/
theorem Panel.refused_iff {s : Simulator Panel} (hfree : s.isRunning = false) (text : String) :
    (s.perform (.run text)).reply = .refused ↔ ∀ c ∈ text.toList, isWhiteSpace c = true := by
  rw [← List.all_eq_true, ← Script.isBlank_parse]
  have hrun := Simulator.run?_of_free hfree text
  have hbegin : World.begin? s.world (Script.parse text) =
      if (Script.parse text).isBlank then none else some s.world := s.world.world_begin? _
  cases hblank : (Script.parse text).isBlank with
  | true =>
      rw [hbegin, hblank, if_pos rfl, Option.map_none] at hrun
      rw [Simulator.perform_run_of_none hrun]
      exact iff_of_true rfl rfl
  | false =>
      rw [hbegin, hblank, if_neg Bool.false_ne_true, Option.map_some] at hrun
      rw [Simulator.perform_run_of_some hrun]
      exact iff_of_false nofun nofun

/-! ## Texts and their scripts -/

/-- The script of a text stands by the text, line by line. -/
structure Script.StandsBy (text : String) : Prop where
  /-- There is one line more than there are line feeds, so there always is one. -/
  length_eq : (parse text).length = text.toList.count '\n' + 1
  isEmpty_eq : (parse text).isEmpty = false
  /-- Each line is read from the piece between line feeds that has its number. -/
  line?_eq : ∀ i, (parse text).line? i = ((text.toList.splitOn '\n')[i]?).map Line.ofText
  /-- A line feed between two texts ends the last line of the first. -/
  append : ∀ other,
    (parse (text ++ "\n" ++ other)).lines = (parse text).lines ++ (parse other).lines
  /-- Carriage returns before line feeds and at the end change no line. -/
  returns : ∀ other, GainsReturns text.toList other.toList →
    (parse other).lines = (parse text).lines
  /-- The script is blank when there is nothing but white space in the text, and then the panel
  refuses to run it. -/
  isBlank_iff : (parse text).isBlank = true ↔ ∀ c ∈ text.toList, isWhiteSpace c = true
  refused_iff : ∀ s : Simulator Panel, s.isRunning = false →
    ((s.perform (.run text)).reply = .refused ↔ ∀ c ∈ text.toList, isWhiteSpace c = true)

/-- **A script stands by its text**, whatever the text is. -/
theorem Script.standsBy_text (text : String) : StandsBy text where
  length_eq := (List.length_map ..).trans (length_splitLines text.toList)
  isEmpty_eq := by
    rw [Bool.eq_false_iff, ne_eq, isEmpty, List.isEmpty_iff]
    exact fun hnil => splitLines_ne_nil text.toList (List.map_eq_nil_iff.mp hnil)
  line?_eq i := by
    rw [← splitLines_eq_splitOn]
    exact List.getElem?_map
  append other := lines_parse_append text other
  returns _ h := lines_eq_of_gainsReturns h
  isBlank_iff := by rw [isBlank_parse, List.all_eq_true]
  refused_iff _ hfree := Panel.refused_iff hfree text

end StepScript
