import StepScript.Panel.Basic
import StepScript.Proofs.Script.Radices
import StepScript.Proofs.Script.Spelling
set_option autoImplicit false

/-!
# The panel: operands in either radix

A switch names a lamp and a state, each as an integer, and a script may spell either of them in
decimal or in hexadecimal digits.  The line is the same command whichever it uses, but for one
integer: the least of the words is read in decimal digits only, and a switch that spells it in
hexadecimal is not valid.  No lamp has that number, so the panel cannot tell.

Main statements: `Line.Switches.ofLine_eq`, `Line.Switches.apply_eq` and
`spellings_interchangeable`.
-/

namespace StepScript

/-! ## The line -/

/-- A line of text with the name of the switch, in any letter case, and the spellings of a lamp and
of a state.  Whatever else the line holds is left out of account. -/
inductive Line.Switches (lamp state : Int) (r r' : Radix) (raw : List Char) : Prop where
  | mk {word operand operand' : List Char} {rest : List (List Char)}
      (words_eq : words raw = word :: operand :: operand' :: rest)
      (name_eq : upperCase word = "ACIONAR".toList)
      (lamp_spelled : Spells r lamp operand) (state_spelled : Spells r' state operand')

/-- The command for a lamp and a state. -/
def PanelCommand.ofOperands (lamp state : Int) : PanelCommand :=
  if state = 0 then .switch lamp false
  else if state = 1 then .switch lamp true
  else .invalid

theorem PanelCommand.ofLine_of_integers {l : Line} (hname : l.command? = some "ACIONAR") :
    ofLine l =
      match l.integer? 1, l.integer? 2 with
      | some lamp, some state => ofOperands lamp state
      | _, _ => .invalid := by
  rw [ofLine, hname]
  rfl

/-- A state that is not read is no state. -/
theorem PanelCommand.ofOperands_of_not_holds {r : Radix} {state : Int} (h : ¬ r.Holds state)
    (lamp : Int) : ofOperands lamp state = .invalid := by
  rw [ofOperands, if_neg, if_neg]
  · rintro rfl
    exact h (by cases r <;> decide)
  · rintro rfl
    exact h (by cases r <;> decide)

theorem Line.integer?_of_spells {l : Line} {index : Nat} {r : Radix} {v : Int} {word : List Char}
    (htoken : l.operand? index = some (String.ofList (upperCase word))) (h : Spells r v word) :
    l.integer? index = if r.Holds v then some v else none := by
  rw [integer?, htoken, Option.bind_some, String.toList_ofList, h.inUpperCase.integerPrefix?_eq]

namespace Line.Switches

variable {lamp state : Int} {r r' : Radix} {raw : List Char}

/-- **A switch is the command for its lamp and its state** if the lamp is read. -/
theorem ofLine_eq (h : Switches lamp state r r' raw) :
    PanelCommand.ofLine (ofText raw) =
      if r.Holds lamp then .ofOperands lamp state else .invalid := by
  obtain ⟨hwords, hname, hlamp, hstate⟩ := h
  have htokens := tokens_ofText_eq_map_words raw
  rw [hwords, List.map_cons, List.map_cons, List.map_cons, hname, String.ofList_toList] at htokens
  have hcommand : (ofText raw).command? = some "ACIONAR" := by
    rw [command?, htokens, List.head?_cons]
  have hfirst := integer?_of_spells (by rw [operand?, htokens]; rfl : operand? _ 1 = _) hlamp
  have hsecond := integer?_of_spells (by rw [operand?, htokens]; rfl : operand? _ 2 = _) hstate
  rw [PanelCommand.ofLine_of_integers hcommand, hfirst, hsecond]
  by_cases hread : r.Holds lamp
  · rw [if_pos hread, if_pos hread]
    by_cases hread' : r'.Holds state
    · rw [if_pos hread']
    · rw [if_neg hread', PanelCommand.ofOperands_of_not_holds hread']
  · rw [if_neg hread, if_neg hread]

/-- **The panel is left as the lamp and the state say**, read or not. -/
theorem apply_eq (h : Switches lamp state r r' raw) (p : Panel) :
    p.apply (PanelCommand.ofLine (ofText raw)) = p.apply (.ofOperands lamp state) := by
  rw [h.ofLine_eq]
  split
  · rfl
  · next hread =>
      have hlamp : LampColor.ofId? lamp = none := by
        rw [LampColor.ofId?_eq_none_iff]
        by_contra hexists
        refine hread ?_
        cases r with
        | decimal => exact ⟨by omega, by omega⟩
        | hexadecimal => exact (by omega : lamp.natAbs ≤ 2 ^ 63 - 1)
      unfold PanelCommand.ofOperands
      split
      · exact (p.apply_switch_of_none hlamp false).symm
      · split
        · exact (p.apply_switch_of_none hlamp true).symm
        · rfl

end Line.Switches

/-! ## Either radix -/

/-- What goes for the spellings of an integer in either radix. -/
structure SpellingsInterchangeable (v : Int) : Prop where
  spelled : ∀ r, ∃ text, Spells r v text
  /-- A decimal spelling is read as the integer, ... -/
  decimal : ∀ text, Spells .decimal v text → integerPrefix? text = some v
  /-- and so is a hexadecimal one, ... -/
  hexadecimal : v ≠ -2 ^ 63 → ∀ text, Spells .hexadecimal v text → integerPrefix? text = some v
  /-- except that it is not read if the integer is the least of all words. -/
  least : v = -2 ^ 63 → ∀ text, Spells .hexadecimal v text → integerPrefix? text = none
  /-- A switch of the lamp with that number is one command, however its operands are spelled. -/
  switched : ∀ state r r' raw, Line.Switches v state r r' raw → (r = .hexadecimal → v ≠ -2 ^ 63) →
    PanelCommand.ofLine (Line.ofText raw) = .ofOperands v state
  /-- And it does the same to any panel without exception. -/
  applied : ∀ state r₁ r₁' raw₁ r₂ r₂' raw₂, Line.Switches v state r₁ r₁' raw₁ →
    Line.Switches v state r₂ r₂' raw₂ → ∀ p : Panel,
      p.apply (PanelCommand.ofLine (Line.ofText raw₁)) =
        p.apply (PanelCommand.ofLine (Line.ofText raw₂))

/-- **Decimal and hexadecimal spellings are interchangeable**, the least word aside. -/
theorem spellings_interchangeable {v : Int} (hmin : -2 ^ 63 ≤ v) (hmax : v ≤ 2 ^ 63 - 1) :
    SpellingsInterchangeable v := by
  have hdecimal : Radix.decimal.Holds v := ⟨hmin, hmax⟩
  have hhexadecimal : Radix.hexadecimal.Holds v ↔ v ≠ -2 ^ 63 := by
    rw [Radix.Holds]
    omega
  refine ⟨fun r => Spells.exists_spelling r v, fun text h => ?_, fun hne text h => ?_,
    fun heq text h => ?_, fun state r r' raw h hread => ?_, ?_⟩
  case refine_1 => rw [h.integerPrefix?_eq, if_pos hdecimal]
  case refine_2 => rw [h.integerPrefix?_eq, if_pos (hhexadecimal.mpr hne)]
  case refine_3 => rw [h.integerPrefix?_eq, if_neg fun hholds => hhexadecimal.mp hholds heq]
  case refine_4 =>
    rw [h.ofLine_eq, if_pos]
    cases r with
    | decimal => exact hdecimal
    | hexadecimal => exact hhexadecimal.mpr (hread rfl)
  case refine_5 =>
    intro state r₁ r₁' raw₁ r₂ r₂' raw₂ h₁ h₂ p
    rw [h₁.apply_eq, h₂.apply_eq]

/-- The greatest word, in digits of either case. -/
theorem spellings_interchangeable_of_greatest :
    SpellingsInterchangeable (2 ^ 63 - 1) ∧
      Spells .hexadecimal (2 ^ 63 - 1) "+0X007fffFFFFffffFFFF".toList ∧
      integerPrefix? "+0X007fffFFFFffffFFFF".toList = some (2 ^ 63 - 1) := by
  have hgreatest : SpellingsInterchangeable (2 ^ 63 - 1) :=
    spellings_interchangeable (by decide) (by decide)
  have hspelled : Spells .hexadecimal (2 ^ 63 - 1) "+0X007fffFFFFffffFFFF".toList :=
    @Spells.mk _ _ ['+'] ['0', 'X'] "7fffFFFFffffFFFF".toList 2 (by decide) (by decide) (by decide)
      (by decide) (by decide)
  exact ⟨hgreatest, hspelled, hgreatest.hexadecimal (by decide) _ hspelled⟩

/-- The least word: the hexadecimal digits are read before the sign, and their value is no word. -/
theorem least_word_unread_in_hexadecimal :
    Spells .decimal (-2 ^ 63) "-9223372036854775808".toList ∧
      integerPrefix? "-9223372036854775808".toList = some (-2 ^ 63) ∧
      Spells .hexadecimal (-2 ^ 63) "-0x8000000000000000".toList ∧
      integerPrefix? "-0x8000000000000000".toList = none ∧
      Line.Switches (-2 ^ 63) 1 .decimal .decimal "ACIONAR -9223372036854775808 1".toList ∧
      PanelCommand.ofLine (Line.ofText "ACIONAR -9223372036854775808 1".toList) =
        .switch (-2 ^ 63) true ∧
      Line.Switches (-2 ^ 63) 1 .hexadecimal .decimal "ACIONAR -0x8000000000000000 1".toList ∧
      PanelCommand.ofLine (Line.ofText "ACIONAR -0x8000000000000000 1".toList) = .invalid := by
  have hdecimal : Spells .decimal (-2 ^ 63) "-9223372036854775808".toList :=
    @Spells.mk _ _ ['-'] [] "9223372036854775808".toList 0 (by decide) (by decide) (by decide)
      (by decide) (by decide)
  have hhexadecimal : Spells .hexadecimal (-2 ^ 63) "-0x8000000000000000".toList :=
    @Spells.mk _ _ ['-'] ['0', 'x'] "8000000000000000".toList 0 (by decide) (by decide) (by decide)
      (by decide) (by decide)
  have hstate : Spells .decimal 1 ['1'] :=
    @Spells.mk _ _ [] [] ['1'] 0 (by decide) (by decide) (by decide) (by decide) (by decide)
  have hswitch : Line.Switches (-2 ^ 63) 1 .decimal .decimal
      "ACIONAR -9223372036854775808 1".toList :=
    @Line.Switches.mk _ _ _ _ _ "ACIONAR".toList _ _ [] (by decide) (by decide) hdecimal hstate
  have hswitch' : Line.Switches (-2 ^ 63) 1 .hexadecimal .decimal
      "ACIONAR -0x8000000000000000 1".toList :=
    @Line.Switches.mk _ _ _ _ _ "ACIONAR".toList _ _ [] (by decide) (by decide) hhexadecimal hstate
  refine ⟨hdecimal, ?_, hhexadecimal, ?_, hswitch, ?_, hswitch', ?_⟩
  case refine_1 => rw [hdecimal.integerPrefix?_eq, if_pos (by decide)]
  case refine_2 => rw [hhexadecimal.integerPrefix?_eq, if_neg (by decide)]
  case refine_3 => exact hswitch.ofLine_eq.trans (if_pos (by decide))
  case refine_4 => exact hswitch'.ofLine_eq.trans (if_neg (by decide))

end StepScript
