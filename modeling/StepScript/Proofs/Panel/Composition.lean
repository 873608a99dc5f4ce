import StepScript.Proofs.Panel.Runs
import StepScript.Proofs.Run.Renumbered
set_option autoImplicit false

/-!
# The panel: one script after the other

The panel keeps its lamps from one run to the next, so two runs one after the other do what one run
of both texts does, apart from the pauses around the lines and from the render that starts the
second run.

Main statement: `Panel.runs_compose`.
-/

namespace StepScript

/-- How the report of a run compares with the reports of two runs one after the other, where `lines`
is the number of lines of the first. -/
structure RunReport.Composes {W : Type} (p : Pacing) (lines : Nat)
    (first second joint : RunReport (Simulator W) W) : Prop where
  completed : first.outcome = some .completed ∧ second.outcome = some .completed ∧
    joint.outcome = some .completed
  world : joint.state.world = second.state.world
  /-- The pauses on the lines come one after the other; those around them are taken once. -/
  pauses : ∃ onFirst onSecond, onFirst.length = lines ∧
    first.clock.pauses = Pacing.gap p.settle ++ onFirst ++ Pacing.gap p.tail ∧
    second.clock.pauses = Pacing.gap p.settle ++ onSecond ++ Pacing.gap p.tail ∧
    joint.clock.pauses = Pacing.gap p.settle ++ (onFirst ++ onSecond) ++ Pacing.gap p.tail
  activatedLines : joint.recording.activatedLines =
    first.recording.activatedLines ++ second.recording.activatedLines.map (· + lines)
  /-- The second run shows the world that it starts from, and the joint one does not. -/
  renders : ∃ rest, second.recording.renders = first.state.world :: rest ∧
    joint.recording.renders = first.recording.renders ++ rest
  /-- In all, the events of the second run are the same up to the numbers of its lines. -/
  events : ∃ rest, second.recording.events = .render first.state.world :: rest ∧
    joint.recording.events = first.recording.events ++ rest.map (Event.renumber (· + lines))

namespace Panel

/-- The events of two scripts as one: those of the second are numbered from the end of the first. -/
theorem eventsFrom_append_lines (b : Panel) (ls ms : List Line) :
    Passage.eventsFrom 0 (Passage.ofLines b (ls ++ ms)) =
      Passage.eventsFrom 0 (Passage.ofLines b ls) ++
        (Passage.eventsFrom 0 (Passage.ofLines (b.afterLines ls) ms)).map
          (Event.renumber (· + ls.length)) := by
  have hmoved : (Passage.eventsFrom 0 (Passage.ofLines (b.afterLines ls) ms)).map
      (Event.renumber (· + ls.length)) =
        Passage.eventsFrom ls.length (Passage.ofLines (b.afterLines ls) ms) :=
    Passage.eventsFrom_renumber fun i _ => by rw [Nat.zero_add, Nat.add_comm]
  rw [ofLines_append, Passage.eventsFrom_append, length_ofLines, Nat.zero_add, hmoved]

/-- **Scripts of the panel compose.**  Two texts, neither of them all white space, are run one after
the other, or as one text with a line feed between them. -/
theorem runs_compose {s : Simulator Panel} {a b : String} (hfree : s.isRunning = false)
    (ha : ∃ c ∈ a.toList, isWhiteSpace c = false) (hb : ∃ c ∈ b.toList, isWhiteSpace c = false) :
    RunReport.Composes s.pacing (Script.parse a).length (s.report a)
      ((s.report a).state.report b) (s.report (a ++ "\n" ++ b)) := by
  have hjoint : ∃ c ∈ (a ++ "\n" ++ b).toList, isWhiteSpace c = false := by
    obtain ⟨c, hmem, hink⟩ := ha
    exact ⟨c, by simp [hmem], hink⟩
  have hfirst := report_of_inked hfree ha
  have hsecond := report_of_inked (s := (s.report a).state) (by rw [hfirst]; rfl) hb
  have hboth := report_of_inked hfree hjoint
  rw [Script.lines_parse_append] at hboth
  rw [hfirst] at hsecond
  rw [hfirst, hsecond, hboth, Script.length]
  generalize (Script.parse a).lines = ls
  generalize (Script.parse b).lines = ms
  have hevents := eventsFrom_append_lines s.world ls ms
  constructor
  case completed => exact ⟨rfl, rfl, rfl⟩
  case world => exact afterLines_append s.world ls ms
  case pauses =>
    refine ⟨(Passage.ofLines s.world ls).map (Passage.pause s.pacing),
      (Passage.ofLines (s.world.afterLines ls) ms).map (Passage.pause s.pacing), ?_,
      Clock.pauses_pauseAll_start _, Clock.pauses_pauseAll_start _, ?_⟩
    · rw [List.length_map, length_ofLines]
    · rw [Clock.pauses_pauseAll_start, ofLines_append, List.map_append]
  case activatedLines =>
    rw [hevents, ← List.cons_append, Recording.activatedLines_append,
      Recording.activatedLines_renumber]
    rfl
  case renders =>
    refine ⟨(⟨Passage.eventsFrom 0 (Passage.ofLines (s.world.afterLines ls) ms)⟩ :
      Recording Panel).renders, rfl, ?_⟩
    rw [hevents, ← List.cons_append, Recording.renders_append, Recording.renders_renumber]
  case events => exact ⟨_, rfl, congrArg (List.cons (.render s.world)) hevents⟩

/-- A lamp that the first text switches on stays on in the second, which ends on a blank line. -/
theorem runs_compose_with_lamp_kept :
    let s := Simulator.new off .led
    let a := "ACIONAR 1 1\nESPERAR 2"
    let b := "PISCAR\nACIONAR 3 1\n"
    (s.isRunning = false ∧ (∃ c ∈ a.toList, isWhiteSpace c = false) ∧
        ∃ c ∈ b.toList, isWhiteSpace c = false) ∧
      RunReport.Composes s.pacing 2 (s.report a) ((s.report a).state.report b)
        (s.report (a ++ "\n" ++ b)) ∧
      (s.report (a ++ "\n" ++ b)).state.world = ⟨true, false, true⟩ := by
  intro s a b
  have ha : ∃ c ∈ a.toList, isWhiteSpace c = false := ⟨'A', by decide +kernel, rfl⟩
  have hb : ∃ c ∈ b.toList, isWhiteSpace c = false := ⟨'P', by decide +kernel, rfl⟩
  refine ⟨⟨rfl, ha, hb⟩, ?_, by decide +kernel⟩
  have hcomposes := runs_compose (s := s) rfl ha hb
  rwa [show (Script.parse a).length = 2 by decide +kernel] at hcomposes

end Panel

end StepScript
