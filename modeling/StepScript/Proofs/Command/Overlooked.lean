import StepScript.Proofs.Command.Checked
import StepScript.Proofs.Panel.Settings
import StepScript.Proofs.Run.IdleLine
set_option autoImplicit false

/-!
# Commands: idle lines in a check of the panel

A check tells whether the command of a line is known.  For the panel that is not quite whether the
line does anything: a line without a known command does nothing, but of the known ones a switch of a
lamp that does not exist does nothing either, nor does a wait for what is no time.  Those are all.

Main statements: `Panel.doesNothing_iff`, which lines do nothing; `CheckReport.tellsIdle_of_panel`,
what the entries of a check and its verdict say about them; and `check_overlooks_missing_lamp`.
-/

namespace StepScript

namespace PanelCommand

/-- The command is known, and does nothing all the same. -/
def IsOverlooked : PanelCommand → Prop
  | .switch lamp _ => lamp < 1 ∨ 3 < lamp
  | .wait d => d = none
  | .clear | .invalid | .noop => False

/-- An idle command is unknown or overlooked. -/
theorem isIdle_iff (c : PanelCommand) :
    c.IsIdle ↔ c.isRecognized = false ∨ c.IsOverlooked := by
  cases c with
  | noop => exact iff_of_true trivial (.inl rfl)
  | invalid => exact iff_of_true trivial (.inl rfl)
  | clear => exact iff_of_false id (not_or.mpr ⟨nofun, id⟩)
  | switch lamp on => exact (or_iff_right nofun).symm
  | wait d =>
      cases d with
      | none => exact iff_of_true trivial (.inr rfl)
      | some d => exact iff_of_false id (not_or.mpr ⟨nofun, nofun⟩)

/-- A command that is not idle sets a lamp, or has a pause of its own. -/
theorem not_isIdle_iff (c : PanelCommand) :
    ¬ c.IsIdle ↔ c.setsLamp = true ∨ ∃ d, c = .wait (some d) := by
  cases c with
  | noop => exact iff_of_false (not_not_intro trivial) (by simp [setsLamp])
  | invalid => exact iff_of_false (not_not_intro trivial) (by simp [setsLamp])
  | clear => exact iff_of_true id (.inl rfl)
  | switch lamp on =>
      simp only [IsIdle, setsLamp, Bool.and_eq_true, decide_eq_true_eq, reduceCtorEq, exists_false,
        or_false]
      omega
  | wait d =>
      cases d with
      | none => exact iff_of_false (not_not_intro trivial) (by simp [setsLamp])
      | some d => exact iff_of_true id (.inr ⟨d, rfl⟩)

/-- A known command sets a lamp, has a pause of its own, or is overlooked. -/
theorem isRecognized_iff (c : PanelCommand) :
    c.isRecognized = true ↔ c.setsLamp = true ∨ (∃ d, c = .wait (some d)) ∨ c.IsOverlooked := by
  rw [← or_assoc, ← not_isIdle_iff, isIdle_iff]
  cases c with
  | noop => exact iff_of_false nofun (by simp [isRecognized, IsOverlooked])
  | invalid => exact iff_of_false nofun (by simp [isRecognized, IsOverlooked])
  | clear => exact iff_of_true rfl (by simp [isRecognized, IsOverlooked])
  | switch lamp on => exact iff_of_true rfl (by simp [isRecognized, or_comm, Classical.em])
  | wait d => exact iff_of_true rfl (by simp [isRecognized, or_comm, Classical.em])

end PanelCommand

/-- A line that is not blank does nothing, whatever the lamps are, exactly when its command is
idle. -/
theorem Panel.doesNothing_iff {l : Line} (hinked : l.isBlank = false) :
    l.DoesNothing Panel ↔ (PanelCommand.ofLine l).IsIdle := by
  refine ⟨fun h => ?_, doesNothing_of_isIdle⟩
  have hsame : off.apply (PanelCommand.ofLine l) = (off, .idle) := by
    rcases h with hblank | hidle
    · rw [hinked] at hblank
      cases hblank
    · have happly := hidle off
      rw [world_apply_decode] at happly
      exact Except.ok.inj happly
  by_contra hbusy
  rcases (PanelCommand.not_isIdle_iff _).mp hbusy with hsets | ⟨d, hwait⟩
  · rw [← changed_iff_setsLamp off, hsame] at hsets
    cases hsets
  · rw [hwait] at hsame
    cases hsame

/-! ## Checks -/

/-- What a check of a text for the panel says about lines that do nothing. -/
structure CheckReport.TellsIdle (r : CheckReport) (text : String) : Prop where
  /-- Every line that is not blank has an entry. -/
  lines : ∀ index l, (Script.parse text).line? index = some l → l.isBlank = false →
    ∃ e ∈ r.entries, e.line = index
  /-- An entry tells of its line that it does nothing, or overlooks that. -/
  entries : ∀ e ∈ r.entries, ∃ l, (Script.parse text).line? e.line = some l ∧ l.isBlank = false ∧
    (l.DoesNothing Panel ↔ e.recognized = false ∨ (PanelCommand.ofLine l).IsOverlooked)
  /-- The verdict is good when each line sets a lamp, has a pause of its own, or is overlooked. -/
  verdict : r.summary = "✓ " ++ toString r.entries.length ++ " lines, all recognized" ↔
    ∀ index l, (Script.parse text).line? index = some l → l.isBlank = false →
      (PanelCommand.ofLine l).setsLamp = true ∨
        (∃ d, PanelCommand.ofLine l = .wait (some d)) ∨ (PanelCommand.ofLine l).IsOverlooked

namespace CheckReport

/-- The verdict is good exactly when every entry has a known command. -/
theorem summary_eq_iff (r : CheckReport) :
    r.summary = "✓ " ++ toString r.entries.length ++ " lines, all recognized" ↔
      ∀ e ∈ r.entries, e.recognized = true := by
  have hcount : r.unrecognizedCount = 0 ↔ ∀ e ∈ r.entries, e.recognized = true := by
    simp [unrecognizedCount]
  rw [← hcount, summary]
  split
  · next hzero => exact iff_of_true rfl hzero
  · next hsome =>
      refine iff_of_false (fun h => ?_) hsome
      have hhead := congrArg (fun s : String => s.toList.head?) h
      simp at hhead

/-- **What a check of the panel tells**, for every text. -/
theorem tellsIdle_of_panel (text : String) :
    (build .led (Script.parse text)).TellsIdle text where
  lines index l hline hinked :=
    ⟨⟨index, l.source, (PanelCommand.ofLine l).text, (PanelCommand.ofLine l).isRecognized⟩,
      mem_entriesOf.mpr ⟨l, hline, hinked, rfl, rfl, rfl⟩, rfl⟩
  entries e he := by
    obtain ⟨l, hline, hinked, -, -, hrecognized⟩ := mem_entriesOf.mp he
    refine ⟨l, hline, hinked, ?_⟩
    rw [hrecognized, Panel.doesNothing_iff hinked]
    exact PanelCommand.isIdle_iff _
  verdict := by
    rw [summary_eq_iff]
    constructor
    · intro hknown index l hline hinked
      rw [← PanelCommand.isRecognized_iff]
      exact hknown ⟨index, l.source, (PanelCommand.ofLine l).text, (PanelCommand.ofLine l).isRecognized⟩
        (mem_entriesOf.mpr ⟨l, hline, hinked, rfl, rfl, rfl⟩)
    · intro hlines e he
      obtain ⟨l, hline, hinked, -, -, hrecognized⟩ := mem_entriesOf.mp he
      rw [hrecognized]
      exact (PanelCommand.isRecognized_iff _).mpr (hlines e.line l hline hinked)

end CheckReport

/-- The switch of a lamp that does not exist, and a wait without a number, pass for known lines. -/
theorem check_overlooks_missing_lamp :
    let text := "ACIONAR 4 1\nESPERAR"
    let r := CheckReport.build .led (Script.parse text)
    (∀ l ∈ (Script.parse text).lines, l.isBlank = false ∧ l.DoesNothing Panel) ∧
      r.entries.map CheckEntry.recognized = [true, true] ∧
      r.summary = "✓ 2 lines, all recognized" := by
  intro text r
  refine ⟨fun l hl => ?_, by decide +kernel, by decide +kernel⟩
  have hidle : ∀ l ∈ (Script.parse text).lines, l.isBlank = false ∧
      (PanelCommand.ofLine l = .switch 4 true ∨ PanelCommand.ofLine l = .wait none) := by
    decide +kernel
  obtain ⟨hinked, hcommand⟩ := hidle l hl
  refine ⟨hinked, (Panel.doesNothing_iff hinked).mpr ?_⟩
  rcases hcommand with hswitch | hwait
  · rw [hswitch]
    exact .inr (by decide)
  · rw [hwait]
    trivial

end StepScript
