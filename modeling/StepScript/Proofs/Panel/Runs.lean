import StepScript.Panel.Basic
import StepScript.Proofs.Run.Report
import StepScript.Proofs.Script.Lines
set_option autoImplicit false

/-!
# The panel: runs

No command of the panel fails and no run of it is judged, so a run enters every line and completes.
It starts from the lamps as they are.

Main statement: `Panel.report_of_inked`, what a simulator that is free makes of any text that is not
all white space.
-/

namespace StepScript

namespace Panel

/-! ## Lines -/

theorem ofLine_of_inked {l : Line} (hinked : l.isBlank = false) (b : Panel) :
    Passage.ofLine b l =
      .done (b.apply (PanelCommand.ofLine l)).1 (b.apply (PanelCommand.ofLine l)).2 :=
  Passage.ofLine_of_ok hinked (b.world_apply _)

/-- A blank line has no command. -/
theorem noop_of_blank {l : Line} (hblank : l.isBlank = true) : PanelCommand.ofLine l = .noop := by
  rw [PanelCommand.ofLine, Line.command?, (Line.isBlank_iff l).mp hblank]
  rfl

/-- A line does to the lamps what its command does, be it blank or not. -/
theorem worldAfter_ofLine (b : Panel) (l : Line) :
    (Passage.ofLine b l).worldAfter b = (b.apply (PanelCommand.ofLine l)).1 := by
  cases hblank : l.isBlank with
  | true =>
      rw [Passage.ofLine_of_blank hblank, noop_of_blank hblank]
      rfl
  | false =>
      rw [ofLine_of_inked hblank]
      rfl

theorem isFailed_ofLine (b : Panel) (l : Line) : (Passage.ofLine b l).isFailed = false := by
  cases hblank : l.isBlank with
  | true => rw [Passage.ofLine_of_blank hblank]; rfl
  | false => rw [ofLine_of_inked hblank]; rfl

/-- No line of the panel fails. -/
theorem failure?_ofLines (b : Panel) (ls : List Line) :
    Passage.failure? (Passage.ofLines b ls) = none := by
  induction ls generalizing b with
  | nil => rfl
  | cons l ls ih =>
      rw [Passage.ofLines_cons_of_not_failed (isFailed_ofLine b l),
        Passage.failure?_cons_of_not_failed (isFailed_ofLine b l), ih, Option.map_none]

/-- The panel after several lines. -/
def afterLines (b : Panel) (ls : List Line) : Panel := Passage.lastWorld b (Passage.ofLines b ls)

@[simp] theorem afterLines_nil (b : Panel) : b.afterLines [] = b := rfl

@[simp] theorem afterLines_cons (b : Panel) (l : Line) (ls : List Line) :
    b.afterLines (l :: ls) = (b.apply (PanelCommand.ofLine l)).1.afterLines ls := by
  rw [afterLines, Passage.ofLines_cons_of_not_failed (isFailed_ofLine b l), Passage.lastWorld_cons,
    worldAfter_ofLine, afterLines]

theorem ofLines_append (b : Panel) (ls ms : List Line) :
    Passage.ofLines b (ls ++ ms) = Passage.ofLines b ls ++ Passage.ofLines (b.afterLines ls) ms :=
  Passage.ofLines_append_of_not_failed (failure?_ofLines b ls) ms

theorem afterLines_append (b : Panel) (ls ms : List Line) :
    b.afterLines (ls ++ ms) = (b.afterLines ls).afterLines ms := by
  rw [afterLines, ofLines_append, Passage.lastWorld_append]
  rfl

theorem length_ofLines (b : Panel) (ls : List Line) : (Passage.ofLines b ls).length = ls.length :=
  Passage.length_ofLines_of_reached (failure?_ofLines b ls)

/-! ## Runs -/

/-- A run of the panel enters every line, and completes. -/
theorem transcript_eq (b : Panel) (s : Script) (p : Pacing) :
    s.transcript p b =
      { outcome := .completed
        world := b.afterLines s.lines
        pauses := Pacing.gap p.settle ++ (Passage.ofLines b s.lines).map (Passage.pause p) ++
          Pacing.gap p.tail
        events := .render b :: Passage.eventsFrom 0 (Passage.ofLines b s.lines) } := by
  have hending : Ending.of (none : Option Nat) (b.afterLines s.lines) =
      ⟨.completed, b.afterLines s.lines, []⟩ := rfl
  simp only [Script.transcript, failure?_ofLines]
  rw [← afterLines, hending, List.append_nil]

/-- A panel takes any text that is not all white space. -/
theorem begin?_of_inked (b : Panel) {text : String}
    (hinked : ∃ c ∈ text.toList, isWhiteSpace c = false) :
    World.begin? b (Script.parse text) = some b := by
  obtain ⟨c, hmem, hink⟩ := hinked
  have hblank : (Script.parse text).isBlank = false := by
    rw [Script.isBlank_parse, List.all_eq_false]
    exact ⟨c, hmem, by simp [hink]⟩
  rw [world_begin?, hblank, if_neg Bool.false_ne_true]

/-- **The report of a run of the panel.** -/
theorem report_of_inked {s : Simulator Panel} {text : String} (hfree : s.isRunning = false)
    (hinked : ∃ c ∈ text.toList, isWhiteSpace c = false) :
    let lines := (Script.parse text).lines
    let passages := Passage.ofLines s.world lines
    s.report text =
      { outcome := some .completed
        state := { s with
          world := s.world.afterLines lines, session := none, accepted := s.accepted + 1 }
        recording := ⟨.render s.world :: Passage.eventsFrom 0 passages⟩
        clock := Clock.start.pauseAll (Pacing.gap s.pacing.settle ++
          passages.map (Passage.pause s.pacing) ++ Pacing.gap s.pacing.tail) } := by
  intro lines passages
  rw [Simulator.report_of_begun hfree (begin?_of_inked s.world hinked), transcript_eq]
  rfl

end Panel

end StepScript
