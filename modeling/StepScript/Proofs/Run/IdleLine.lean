import StepScript.Proofs.Run.Entered
import StepScript.Proofs.Run.Renumbered
import StepScript.Proofs.Run.Report
import StepScript.Proofs.Script.Insertion
set_option autoImplicit false

/-!
# Runs: a line that does nothing

A line that does nothing, put into a text, costs its pause and moves the numbers of the lines after
it.  The run shows the same worlds and ends in the same way; and if it fails before that line, it is
the same run.

The lines of a text are read in two parts, those before the new line and those after it.  The lines
before have the same passages with and without it, and if none of them failed, those after find the
same world.

Main statements: `Simulator.report_gainsLine`, for any world, and `idle_line_costs_its_pause`, for
the runs of turtle simulators, panel simulators and games.
-/

namespace StepScript

/-! ## Lines that do nothing -/

section DoesNothing

variable {W : Type} [World W]

/-- The line leaves every world as it is, and has no pause of its own. -/
def Line.DoesNothing (W : Type) [World W] (l : Line) : Prop :=
  l.isBlank = true ∨ ∀ w : W, World.apply w (World.decode l) = .ok (w, .idle)

/-- The pause on a line that does nothing. -/
def Line.idlePause (l : Line) (p : Pacing) : Duration :=
  .ofMillis (if l.isBlank then p.blank else p.idle)

/-- What such a line does in a run. -/
theorem Line.DoesNothing.passage {u : Line} (hu : u.DoesNothing W) (w : W) :
    (Passage.ofLine w u).isFailed = false ∧ (Passage.ofLine w u).worldAfter w = w ∧
      (∀ p, (Passage.ofLine w u).pause p = u.idlePause p) ∧
      ∀ line, (Passage.ofLine w u).events line = [.active line true, .active line false] := by
  cases hblank : u.isBlank with
  | true =>
      rw [Passage.ofLine_of_blank hblank]
      refine ⟨rfl, rfl, fun p => ?_, fun line => rfl⟩
      rw [Line.idlePause, if_pos hblank]
      rfl
  | false =>
      have hidle : World.apply w (World.decode u) = .ok (w, .idle) := by
        rcases hu with hblank' | hidle
        · rw [hblank] at hblank'
          cases hblank'
        · exact hidle w
      rw [Passage.ofLine_of_ok hblank hidle]
      refine ⟨rfl, rfl, fun p => ?_, fun line => rfl⟩
      rw [Line.idlePause, if_neg (by simp [hblank])]
      rfl

end DoesNothing

/-- A line without a command of the turtle does nothing. -/
theorem Turtle.doesNothing_of_noop {l : Line} (h : TurtleCommand.ofLine l = .noop) :
    l.DoesNothing Turtle := by
  refine .inr fun t => ?_
  rw [Turtle.world_apply_decode, h]
  rfl

/-- Whether a command of the panel does nothing, whatever the state of the lamps. -/
def PanelCommand.IsIdle : PanelCommand → Prop
  | .noop | .invalid | .wait none => True
  | .switch lamp _ => lamp < 1 ∨ 3 < lamp
  | .wait (some _) | .clear => False

theorem Panel.doesNothing_of_isIdle {l : Line} (h : (PanelCommand.ofLine l).IsIdle) :
    l.DoesNothing Panel := by
  refine .inr fun b => ?_
  rw [world_apply_decode]
  cases hcommand : PanelCommand.ofLine l with
  | noop => rfl
  | invalid => rfl
  | clear => rw [hcommand] at h; exact h.elim
  | wait d =>
      cases d with
      | none => rfl
      | some d => rw [hcommand] at h; exact h.elim
  | switch lamp on =>
      rw [hcommand] at h
      rw [apply_switch_of_none ((LampColor.ofId?_eq_none_iff lamp).mpr h)]

/-! ## Transcripts -/

section Transcript

variable {W : Type} [World W] {w : W} {a : List Line}

/-- A line put in after all others moves none of them. -/
theorem eventsFrom_ofLines_renumber (w : W) (a : List Line) :
    (Passage.eventsFrom 0 (Passage.ofLines w a)).map (Event.renumber (movedBy a.length)) =
      Passage.eventsFrom 0 (Passage.ofLines w a) := by
  refine Passage.eventsFrom_renumber fun i hi => ?_
  rw [Nat.zero_add, movedBy_of_lt (hi.trans_le (Passage.length_ofLines_le w a))]

theorem Script.events_renumber (s : Script) (p : Pacing) (w : W) :
    (s.transcript p w).events.map (Event.renumber (movedBy s.length)) =
      (s.transcript p w).events := by
  simp only [transcript, length, List.map_append, List.map_cons, eventsFrom_ofLines_renumber,
    Ending.events_renumber]
  rfl

/-- What follows the lines that fail makes no difference. -/
theorem Script.transcript_of_failed {k : Nat}
    (h : Passage.failure? (Passage.ofLines w a) = some k) (b : List Line) (p : Pacing) :
    (⟨a ++ b⟩ : Script).transcript p w = (⟨a⟩ : Script).transcript p w := by
  simp only [transcript, Passage.ofLines_append_of_failed h]

theorem Script.outcome_of_failed {k : Nat}
    (h : Passage.failure? (Passage.ofLines w a) = some k) (p : Pacing) :
    ((⟨a⟩ : Script).transcript p w).outcome = .aborted k := by
  simp only [transcript, h]
  rfl

/-- The end of a run whose lines before line `index` did not fail, with the lines `b` from there. -/
def Ending.ofRest (index : Nat) (w : W) (b : List Line) : Ending W :=
  Ending.of ((Passage.failure? (Passage.ofLines w b)).map (· + index))
    (Passage.lastWorld w (Passage.ofLines w b))

/-- A transcript in two parts. -/
theorem Script.transcript_append (h : Passage.failure? (Passage.ofLines w a) = none)
    (b : List Line) (p : Pacing) :
    let before := Passage.ofLines w a
    let between := Passage.lastWorld w before
    let rest := Passage.ofLines between b
    let ending := Ending.ofRest a.length between b
    (⟨a ++ b⟩ : Script).transcript p w =
      { outcome := ending.outcome
        world := ending.world
        pauses := (Pacing.gap p.settle ++ before.map (Passage.pause p)) ++
          (rest.map (Passage.pause p) ++ Pacing.gap p.tail)
        events := (.render w :: Passage.eventsFrom 0 before) ++
          (Passage.eventsFrom a.length rest ++ ending.events) } := by
  intro before between rest ending
  have hpassages : Passage.ofLines w (a ++ b) = before ++ rest :=
    Passage.ofLines_append_of_not_failed h b
  have hlength : before.length = a.length := Passage.length_ofLines_of_reached h
  have hfailure : Passage.failure? (before ++ rest) =
      (Passage.failure? rest).map (· + a.length) := by
    rw [Passage.failure?_append_of_none h, hlength]
  simp only [transcript, hpassages, hfailure, Passage.lastWorld_append,
    Passage.eventsFrom_append, hlength, List.map_append, List.append_assoc, List.cons_append,
    Nat.zero_add]
  rfl

variable {u : Line} (hu : u.DoesNothing W)
include hu

/-- The lines after one that does nothing find the world that it found. -/
theorem Line.DoesNothing.ofLines_cons (w : W) (b : List Line) :
    Passage.ofLines w (u :: b) = Passage.ofLine w u :: Passage.ofLines w b := by
  obtain ⟨hrun, hworld, -, -⟩ := hu.passage w
  rw [Passage.ofLines_cons_of_not_failed hrun, hworld]

/-- A line that does nothing moves the failed line, and nothing else of the end. -/
theorem Line.DoesNothing.ending_cons (index : Nat) (w : W) (b : List Line) :
    Ending.ofRest index w (u :: b) =
      { Ending.ofRest index w b with
        outcome := (Ending.ofRest index w b).outcome.renumber (· + 1) } := by
  obtain ⟨hrun, hworld, -, -⟩ := hu.passage w
  have hmoved (failure? : Option Nat) :
      (failure?.map (· + 1)).map (· + index) = (failure?.map (· + index)).map (· + 1) := by
    cases failure? with
    | none => rfl
    | some k => exact congrArg some (Nat.add_right_comm k 1 index)
  simp only [Ending.ofRest]
  rw [hu.ofLines_cons, Passage.failure?_cons_of_not_failed hrun, Passage.lastWorld_cons, hworld,
    hmoved, Ending.of_map]

/-- What the pauses gain. -/
theorem Script.pauses_of_reached (h : Passage.failure? (Passage.ofLines w a) = none)
    (b : List Line) (p : Pacing) :
    ∃ before after, ((⟨a ++ b⟩ : Script).transcript p w).pauses = before ++ after ∧
      before.length = (Pacing.gap p.settle).length + a.length ∧
      ((⟨a ++ u :: b⟩ : Script).transcript p w).pauses = before ++ u.idlePause p :: after := by
  rw [transcript_append h, transcript_append h, hu.ofLines_cons]
  refine ⟨_, _, rfl, ?_, ?_⟩
  · rw [List.length_append, List.length_map, Passage.length_ofLines_of_reached h]
  · rw [List.map_cons, (hu.passage _).2.2.1]
    rfl

/-- What the events gain: the lines before are numbered as they were, and those after from one
further on. -/
theorem Script.events_of_reached (h : Passage.failure? (Passage.ofLines w a) = none)
    (b : List Line) (p : Pacing) :
    ∃ before after, ((⟨a ++ b⟩ : Script).transcript p w).events = before ++ after ∧
      (⟨before⟩ : Recording W).activatedLines = List.range a.length ∧
      before.map (Event.renumber (movedBy a.length)) = before ∧
      after.map (Event.renumber (movedBy a.length)) = after.map (Event.renumber (· + 1)) ∧
      ((⟨a ++ u :: b⟩ : Script).transcript p w).events =
        before ++ .active a.length true :: .active a.length false ::
          after.map (Event.renumber (· + 1)) := by
  have hlength := Passage.length_ofLines_of_reached h
  have hafter (f : Nat → Nat) (hf : ∀ i, f (a.length + i) = a.length + 1 + i)
      (ps : List (Passage W)) :
      (Passage.eventsFrom a.length ps).map (Event.renumber f) =
        Passage.eventsFrom (a.length + 1) ps :=
    Passage.eventsFrom_renumber fun i _ => hf i
  rw [transcript_append h, transcript_append h, hu.ofLines_cons, hu.ending_cons]
  refine ⟨_, _, rfl, ?_, ?_, ?_, ?_⟩
  · have hrender : (⟨[.render w]⟩ : Recording W).activatedLines = [] := rfl
    rw [← List.singleton_append, Recording.activatedLines_append, hrender,
      Passage.activatedLines_eventsFrom, hlength, List.nil_append, List.range_eq_range']
  · rw [List.map_cons, eventsFrom_ofLines_renumber]
    rfl
  · rw [List.map_append, List.map_append, hafter _ (fun i => ?_), hafter _ (fun i => ?_),
      Ending.ofRest, Ending.events_renumber, Ending.events_renumber]
    · exact Nat.add_right_comm _ _ _
    · rw [movedBy_of_le (Nat.le_add_right _ _), Nat.add_right_comm]
  · rw [List.map_append, hafter _ (fun i => Nat.add_right_comm _ _ _), Ending.ofRest,
      Ending.events_renumber, Passage.eventsFrom_cons, (hu.passage _).2.2.2]
    rfl

/-- What the outcome gains: no line before the new one has failed. -/
theorem Script.outcome_of_reached (h : Passage.failure? (Passage.ofLines w a) = none)
    (b : List Line) (p : Pacing) :
    (∀ k, ((⟨a ++ b⟩ : Script).transcript p w).outcome = .aborted k → a.length ≤ k) ∧
      ((⟨a ++ u :: b⟩ : Script).transcript p w).outcome =
        ((⟨a ++ b⟩ : Script).transcript p w).outcome.renumber (· + 1) ∧
      ((⟨a ++ u :: b⟩ : Script).transcript p w).world =
        ((⟨a ++ b⟩ : Script).transcript p w).world := by
  rw [transcript_append h, transcript_append h, hu.ending_cons]
  refine ⟨fun k haborted => ?_, rfl, rfl⟩
  obtain ⟨i, -, rfl⟩ := Option.map_eq_some_iff.mp (Ending.failedLine_of_aborted haborted)
  exact Nat.le_add_left _ _

end Transcript

/-! ## Runs to the end -/

/-- How a report with a line put in before line `j` compares with the report without it.  The line
pauses for `d`, and `settle` pauses come before the first line. -/
structure RunReport.GainsLine {S W : Type} (j settle : Nat) (d : Duration) (r r' : RunReport S W) :
    Prop where
  ended : r.outcome.isSome = true
  state : r'.state = r.state
  outcome : r'.outcome = r.outcome.map (Outcome.renumber (movedBy j))
  renders : r'.recording.renders = r.recording.renders
  notices : r'.recording.notices = r.recording.notices.map (Notice.renumber (movedBy j))
  /-- A run that a line before `j` aborts does not come to it. -/
  unreached : ∀ k < j, r.outcome = some (.aborted k) → r' = r
  pauses : (∀ k < j, r.outcome ≠ some (.aborted k)) →
    ∃ before after, r.clock.pauses = before ++ after ∧ before.length = settle + j ∧
      r'.clock.pauses = before ++ d :: after
  activatedLines : (∀ k < j, r.outcome ≠ some (.aborted k)) →
    ∃ after, r.recording.activatedLines = List.range j ++ after ∧
      r'.recording.activatedLines = List.range j ++ j :: after.map (· + 1)
  /-- The line becomes active and inactive again, and shows nothing else. -/
  events : (∀ k < j, r.outcome ≠ some (.aborted k)) →
    ∃ before after, r.recording.events = before ++ after ∧
      r'.recording.events =
        before ++ .active j true :: .active j false :: after.map (Event.renumber (· + 1))

theorem RunReport.GainsLine.map {S T W : Type} {j settle : Nat} {d : Duration}
    {r r' : RunReport S W} (h : r.GainsLine j settle d r') (f : S → T) :
    (r.map f).GainsLine j settle d (r'.map f) where
  ended := h.ended
  state := congrArg f h.state
  outcome := h.outcome
  renders := h.renders
  notices := h.notices
  unreached k hk haborted := congrArg (RunReport.map f) (h.unreached k hk haborted)
  pauses := h.pauses
  activatedLines := h.activatedLines
  events := h.events

section Run

variable {W : Type} [World W]

variable {w : W} {a : List Line}

/-- A run that fails before the new line is the same without it. -/
theorem RunReport.gainsLine_of_failed {k : Nat}
    (h : Passage.failure? (Passage.ofLines w a) = some k) (b : List Line) (p : Pacing)
    (u : Line) (s : Simulator W) :
    (((⟨a ++ b⟩ : Script).transcript p w).report s).GainsLine a.length
      (Pacing.gap p.settle).length (u.idlePause p)
      (((⟨a ++ u :: b⟩ : Script).transcript p w).report s) := by
  have hk : k < a.length := Passage.lt_of_failure? h
  have houtcome := Script.outcome_of_failed h p
  -- The clauses on runs that come to the new line ask for no failure before it.
  have hreached : ¬ ∀ i < a.length,
      (((⟨a⟩ : Script).transcript p w).report s).outcome ≠ some (.aborted i) :=
    fun hnot => hnot k hk (congrArg some houtcome)
  rw [Script.transcript_of_failed h, Script.transcript_of_failed h]
  constructor
  case ended => rfl
  case state => rfl
  case outcome =>
    simp only [Transcript.report, houtcome, Option.map_some, Outcome.renumber, movedBy_of_lt hk]
  case renders => rfl
  case notices =>
    rw [Transcript.report, ← Recording.notices_renumber]
    exact congrArg (fun es => (⟨es⟩ : Recording W).notices) (Script.events_renumber ⟨a⟩ p w).symm
  case unreached => exact fun _ _ _ => rfl
  case pauses => exact fun hnot => absurd hnot hreached
  case activatedLines => exact fun hnot => absurd hnot hreached
  case events => exact fun hnot => absurd hnot hreached

/-- What a run gains that comes to the new line. -/
theorem RunReport.gainsLine_of_reached (h : Passage.failure? (Passage.ofLines w a) = none)
    (b : List Line) (p : Pacing) {u : Line} (hu : u.DoesNothing W) (s : Simulator W) :
    (((⟨a ++ b⟩ : Script).transcript p w).report s).GainsLine a.length
      (Pacing.gap p.settle).length (u.idlePause p)
      (((⟨a ++ u :: b⟩ : Script).transcript p w).report s) := by
  obtain ⟨hlate, houtcome, hworld⟩ := Script.outcome_of_reached hu h b p
  obtain ⟨before, after, hpauses, hlength, hpauses'⟩ := Script.pauses_of_reached hu h b p
  obtain ⟨shown, rest, hevents, hactivated, hshown, hrest, hevents'⟩ :=
    Script.events_of_reached hu h b p
  have hpair : (⟨.active a.length true :: .active a.length false ::
      rest.map (Event.renumber (· + 1))⟩ : Recording W).activatedLines =
        a.length :: (⟨rest⟩ : Recording W).activatedLines.map (· + 1) := by
    rw [← Recording.activatedLines_renumber]
    rfl
  constructor
  case ended => rfl
  case state => simp only [Transcript.report, hworld]
  case outcome =>
    refine congrArg some (houtcome.trans (Outcome.renumber_congr fun k haborted => ?_))
    exact (movedBy_of_le (hlate k haborted)).symm
  case renders =>
    rw [Transcript.report, Transcript.report, hevents, hevents', Recording.renders_append,
      Recording.renders_append, ← Recording.renders_renumber (· + 1) rest]
    rfl
  case notices =>
    rw [Transcript.report, Transcript.report, ← Recording.notices_renumber, hevents, hevents',
      List.map_append, hshown, hrest, Recording.notices_append, Recording.notices_append]
    rfl
  case unreached =>
    intro k hk haborted
    exact absurd (hlate k (Option.some.inj haborted)) (Nat.not_le.mpr hk)
  case pauses =>
    intro _
    refine ⟨before, after, (Clock.pauses_pauseAll_start _).trans hpauses, hlength,
      (Clock.pauses_pauseAll_start _).trans hpauses'⟩
  case activatedLines =>
    intro _
    refine ⟨(⟨rest⟩ : Recording W).activatedLines, ?_, ?_⟩
    · rw [Transcript.report, hevents, Recording.activatedLines_append, hactivated]
    · rw [Transcript.report, hevents', Recording.activatedLines_append, hactivated, hpair]
  case events =>
    intro _
    exact ⟨shown, rest, hevents, hevents'⟩

/-- **A line that does nothing, in a run.** -/
theorem Simulator.report_gainsLine {s : Simulator W} {text line : String} {j : Nat}
    (hfree : s.isRunning = false) (hbegun : World.begin? s.world (Script.parse text) = some w)
    (hbegun' : World.begin? s.world (Script.parse (insertLine text j line)) = some w)
    (hline : '\n' ∉ line.toList) (hj : j ≤ (Script.parse text).length)
    (hu : (Line.ofText line.toList).DoesNothing W) :
    (s.report text).GainsLine j (Pacing.gap s.pacing.settle).length
      ((Line.ofText line.toList).idlePause s.pacing) (s.report (insertLine text j line)) := by
  have hscript : Script.parse (insertLine text j line) =
      ⟨(Script.parse text).lines.take j ++
        Line.ofText line.toList :: (Script.parse text).lines.drop j⟩ := by
    rw [← lines_insertLine text j hline]
  have hlength : ((Script.parse text).lines.take j).length = j := List.length_take_of_le hj
  rw [report_of_begun hfree hbegun, report_of_begun hfree hbegun', hscript]
  -- A line before the new one fails, or the run comes to the new one.
  cases hfailed : Passage.failure? (Passage.ofLines w ((Script.parse text).lines.take j)) with
  | some k =>
      have hgains := RunReport.gainsLine_of_failed hfailed ((Script.parse text).lines.drop j)
        s.pacing (Line.ofText line.toList) s
      rw [hlength, List.take_append_drop] at hgains
      exact hgains
  | none =>
      have hgains := RunReport.gainsLine_of_reached hfailed ((Script.parse text).lines.drop j)
        s.pacing hu s
      rw [hlength, List.take_append_drop] at hgains
      exact hgains

end Run

/-- A panel takes a script with a line put in if it takes it without. -/
theorem Panel.begin?_insertLine {b : Panel} {text line : String} {j : Nat}
    (hline : '\n' ∉ line.toList) {b' : Panel}
    (hbegun : World.begin? b (Script.parse text) = some b') :
    World.begin? b (Script.parse (insertLine text j line)) = some b' := by
  rw [world_begin?, Option.ite_none_left_eq_some] at hbegun ⊢
  refine ⟨fun hblank => hbegun.1 ?_, hbegun.2⟩
  rw [Script.isBlank_iff] at hblank ⊢
  rw [lines_insertLine text j hline] at hblank
  intro l hl
  rw [← List.take_append_drop j (Script.parse text).lines, List.mem_append] at hl
  refine hblank l (List.mem_append.mpr ?_)
  exact hl.imp_right (List.mem_cons_of_mem _)

/-- **A line that does nothing costs its pause.**  A line that is blank or has no command of the
turtle, put into the text of a run of a turtle simulator or a game, and a line that is blank or has
an idle command of the panel, put into the text of a run of a panel simulator, gain the run one
pause at their place, and move the numbers of the lines after them; in all else it is the same
run. -/
theorem idle_line_costs_its_pause {text line : String} {j : Nat} (hline : '\n' ∉ line.toList)
    (hj : j ≤ (Script.parse text).length) :
    let u := Line.ofText line.toList
    (∀ s : Simulator Turtle, (s.run? text).isSome = true →
      u.isBlank = true ∨ TurtleCommand.ofLine u = .noop →
        (s.report text).GainsLine j (Pacing.gap s.pacing.settle).length (u.idlePause s.pacing)
          (s.report (insertLine text j line))) ∧
      (∀ s : Simulator Panel, (s.run? text).isSome = true →
        u.isBlank = true ∨ (PanelCommand.ofLine u).IsIdle →
          (s.report text).GainsLine j (Pacing.gap s.pacing.settle).length (u.idlePause s.pacing)
            (s.report (insertLine text j line))) ∧
      ∀ g : Game, (g.run? text).isSome = true →
        u.isBlank = true ∨ TurtleCommand.ofLine u = .noop →
          (g.report text).GainsLine j (Pacing.gap g.simulator.pacing.settle).length
            (u.idlePause g.simulator.pacing) (g.report (insertLine text j line)) := by
  intro u
  have hturtle (s : Simulator Turtle) (haccepted : (s.run? text).isSome = true)
      (hu : u.isBlank = true ∨ TurtleCommand.ofLine u = .noop) :
      (s.report text).GainsLine j (Pacing.gap s.pacing.settle).length (u.idlePause s.pacing)
        (s.report (insertLine text j line)) := by
    obtain ⟨hfree, t, hbegun⟩ := Simulator.begun_of_isSome haccepted
    exact Simulator.report_gainsLine hfree hbegun hbegun hline hj
      (hu.elim Or.inl Turtle.doesNothing_of_noop)
  refine ⟨hturtle, ?_, ?_⟩
  · intro s haccepted hu
    obtain ⟨hfree, b, hbegun⟩ := Simulator.begun_of_isSome haccepted
    exact Simulator.report_gainsLine hfree hbegun (Panel.begin?_insertLine hline hbegun) hline hj
      (hu.elim Or.inl Panel.doesNothing_of_isIdle)
  · intro g haccepted hu
    rw [Game.run?_eq, Option.isSome_map] at haccepted
    rw [Game.report_eq, Game.report_eq]
    exact (hturtle g.simulator haccepted hu).map g.withSimulator

/-- The switch of a lamp that does not exist, before the line that fails. -/
theorem idle_line_costs_its_pause_before_failure :
    let text := "ANDA 1\nTRAS 9\nLIMPAR"
    let line := "ACIONAR 4 1"
    let u := Line.ofText line.toList
    let turtle := Simulator.new (Turtle.new ⟨8, 0.001⟩ 0.5) .turtle
    let panel := Simulator.new (⟨true, false, true⟩ : Panel) .led
    let game := Game.ofConfig .standard
    ('\n' ∉ line.toList ∧ 1 ≤ (Script.parse text).length ∧
        TurtleCommand.ofLine u = .noop ∧ PanelCommand.ofLine u = .switch 4 true ∧
        (turtle.run? text).isSome = true ∧ (panel.run? text).isSome = true ∧
        (game.run? text).isSome = true) ∧
      (turtle.report text).GainsLine 1 1 (.ofMillis 200) (turtle.report (insertLine text 1 line)) ∧
      (panel.report text).GainsLine 1 0 (.ofMillis 500) (panel.report (insertLine text 1 line)) ∧
      (game.report text).GainsLine 1 1 (.ofMillis 200) (game.report (insertLine text 1 line)) ∧
      (turtle.report text).outcome = some (.aborted 1) ∧
      (turtle.report (insertLine text 1 line)).outcome = some (.aborted 2) ∧
      (panel.report (insertLine text 1 line)).outcome = some .completed := by
  intro text line u turtle panel game
  have hline : '\n' ∉ line.toList := by decide +kernel
  have hlength : 1 ≤ (Script.parse text).length := by decide +kernel
  have hnoop : TurtleCommand.ofLine u = .noop := by decide +kernel
  have hswitch : PanelCommand.ofLine u = .switch 4 true := by decide +kernel
  have hidle : u.isBlank = true ∨ (PanelCommand.ofLine u).IsIdle := by
    rw [hswitch]
    exact .inr (.inr (by decide))
  have hturtle : (turtle.run? text).isSome = true := rfl
  have hpanel : (panel.run? text).isSome = true := by decide +kernel
  have hgame : (game.run? text).isSome = true := rfl
  have hsettle : (Pacing.gap turtle.pacing.settle).length = 1 := by decide +kernel
  have hsettle' : (Pacing.gap panel.pacing.settle).length = 0 := by decide +kernel
  have hsettle'' : (Pacing.gap game.simulator.pacing.settle).length = 1 := by decide +kernel
  have hpause : u.idlePause turtle.pacing = .ofMillis 200 := by decide +kernel
  have hpause' : u.idlePause panel.pacing = .ofMillis 500 := by decide +kernel
  have hpause'' : u.idlePause game.simulator.pacing = .ofMillis 200 := by decide +kernel
  obtain ⟨hturtles, hpanels, hgames⟩ := idle_line_costs_its_pause hline hlength
  have hgains := hturtles turtle hturtle (.inr hnoop)
  have hgains' := hpanels panel hpanel hidle
  have hgains'' := hgames game hgame (.inr hnoop)
  rw [hsettle, hpause] at hgains
  rw [hsettle', hpause'] at hgains'
  rw [hsettle'', hpause''] at hgains''
  have houtcome : (turtle.report text).outcome = some (.aborted 1) := by decide +kernel
  have hcompleted : (panel.report text).outcome = some .completed := by decide +kernel
  refine ⟨⟨hline, hlength, hnoop, hswitch, hturtle, hpanel, hgame⟩, hgains, hgains', hgains'',
    houtcome, ?_, ?_⟩
  · rw [hgains.outcome, houtcome]
    rfl
  · rw [hgains'.outcome, hcompleted]
    rfl

end StepScript
