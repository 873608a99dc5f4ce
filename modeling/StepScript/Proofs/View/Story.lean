import Mathlib.Data.List.GetD
import StepScript.Proofs.Command.Stage
import StepScript.Proofs.Run.Entered
set_option autoImplicit false

/-!
# Views: the story of a simulation

A simulation on a terminal and the same simulation recorded tell one story: the terminal has written
what each recorded event says, in order.  The terminal reads the script a second time, to show the
source of a line, and the lines it is asked for are those the session has entered.

What an event says is told here from the text itself, so that it can be compared with what the
terminal makes of it.

Main statement: `simulate_tells_story`, for every configuration and every text.
-/

namespace StepScript

/-! ## What an event says -/

/-- The source of a line of a text, and nothing for a line that is not there. -/
def sourceAt (text : String) (line : Nat) : String :=
  String.ofList (trim ((splitLines text.toList).getD line []))

/-- What an event says of a run of a text. -/
def Event.told {W : Type} [Drawn W] (text : String) : Event W → String
  | .render w => Drawn.draw w ++ "\n"
  | .active line true =>
      "▶ " ++ padLeft 3 (toString (line + 1)) ++ " │ " ++ sourceAt text line ++ "\n"
  | .active _ false => ""
  | .failed line => "✗ " ++ padLeft 3 (toString (line + 1)) ++ " │ line failed" ++ "\n"
  | .notice n => "! " ++ n.message ++ "\n"

/-- A sink after a text, as far as it takes any. -/
def Sink.append (s : Sink) (text : String) : Sink :=
  match s with
  | .written before => .written (before ++ text)
  | .closed => .closed

theorem Sink.append_append (s : Sink) (a b : String) :
    (s.append a).append b = s.append (a ++ b) := by
  cases s with
  | written before => simp only [append, String.append_assoc]
  | closed => rfl

theorem Sink.append_empty (s : Sink) : s.append "" = s := by
  cases s with
  | written before => simp only [append, String.append_empty]
  | closed => rfl

theorem Sink.writeLine_eq_append (s : Sink) (text : String) :
    s.writeLine text = s.append (text ++ "\n") := by
  cases s with
  | written before => simp only [writeLine, append, String.append_assoc]
  | closed => rfl

namespace Config

/-- The terminal finds the source of a line where the text has it. -/
theorem getD_lines_openingScreen (text : String) (sink : Sink) (line : Nat) :
    (openingScreen text sink).lines.getD line "" = sourceAt text line := by
  have hlines : (openingScreen text sink).lines =
      (splitLines text.toList).map fun raw => String.ofList (trim raw) := by
    change ((splitLines text.toList).map Line.ofText).map Line.source = _
    rw [List.map_map]
    rfl
  have hempty : "" = String.ofList (trim []) := rfl
  rw [hlines, hempty, List.getD_map, sourceAt]

/-- **One event.**  The terminal over a text writes what the event says. -/
theorem observe_openingScreen {W : Type} [Drawn W] (text : String) (sink : Sink) (e : Event W) :
    View.observe (openingScreen text sink) e =
      openingScreen text (sink.append (e.told text)) := by
  have hwrite (written : String) (hparagraph : (openingScreen text sink).paragraph? e = some written)
      (htold : e.told text = written ++ "\n") : View.observe (openingScreen text sink) e =
        openingScreen text (sink.append (e.told text)) := by
    rw [htold, ← Sink.writeLine_eq_append]
    simp only [View.observe, hparagraph]
    rfl
  cases e with
  | render w => exact hwrite _ rfl rfl
  | active line on =>
      cases on with
      | true =>
          refine hwrite _ rfl ?_
          rw [getD_lines_openingScreen]
          rfl
      | false =>
          rw [Event.told, Sink.append_empty]
          rfl
  | failed line => exact hwrite _ rfl rfl
  | notice n => exact hwrite _ rfl rfl

/-- Several events, by induction on them. -/
theorem replay_openingScreen {W : Type} [Drawn W] (text : String) (sink : Sink)
    (es : List (Event W)) :
    View.replay (openingScreen text sink) es =
      openingScreen text (sink.append (String.join (es.map (Event.told text)))) := by
  induction es generalizing sink with
  | nil => rw [View.replay_nil, List.map_nil, String.join_nil, Sink.append_empty]
  | cons e es ih =>
      rw [View.replay_cons, observe_openingScreen, ih, Sink.append_append, List.map_cons,
        String.join_cons]

end Config

/-! ## Lines -/

section Lines

variable {W : Type} [World W]

/-- The number of lines that a run enters of a script with `n` lines, by its outcome: the failed line
is the last one. -/
def Outcome.linesEntered (n : Nat) : Option Outcome → Nat
  | none => 0
  | some (.aborted line) => line + 1
  | some _ => n

theorem Script.linesEntered_transcript (s : Script) (p : Pacing) (w : W) :
    Outcome.linesEntered s.length (some (s.transcript p w).outcome) =
      (Passage.ofLines w s.lines).length := by
  rw [transcript, Passage.length_ofLines]
  cases Passage.failure? (Passage.ofLines w s.lines) with
  | some line => rfl
  | none =>
      rw [Ending.of]
      cases World.conclude? (Passage.lastWorld w (Passage.ofLines w s.lines)) with
      | none => rfl
      | some judged =>
          obtain ⟨verdict, w'⟩ := judged
          cases verdict <;> rfl

end Lines

/-! ## Simulations -/

namespace Config

/-- The story of a simulation, as it is recorded. -/
structure Story (c : Config) (text : String) (clock : Clock) : Prop where
  /-- The terminal has written what each event says, in order. -/
  written : ∀ before, (simulate c text (.written before) clock).terminal.sink =
    .written (before ++
      String.join ((c.record text clock).view.events.map (Event.told text)))
  /-- A sink that takes nothing has taken nothing. -/
  closed : (simulate c text .closed clock).terminal.sink = .closed
  /-- Lines become active in order, from the first one to the last one entered; so the terminal
  echoes these and no other. -/
  echoed : (c.record text clock).view.activatedLines =
    List.range (Outcome.linesEntered (Script.parse text).length (c.record text clock).outcome)
  /-- Each of them is a line of the text. -/
  present : ∀ line ∈ (c.record text clock).view.activatedLines,
    line < (splitLines text.toList).length
  /-- Whether the terminal takes anything or not, the simulation comes out as recorded. -/
  terminal : ∀ sink,
    simulate c text sink clock =
        ((c.stage (openingScreen text sink)).run text clock).simulation ∧
      (simulate c text sink clock).outcome = (c.record text clock).outcome ∧
      (simulate c text sink clock).clock = (c.record text clock).clock
  /-- So it does on the same stage with any view: terminals, recordings, or none. -/
  views : ∀ {V : Type} [View V c.kind.Scene] (v : V),
    let done := (c.stage v).run text clock
    done.outcome = (c.record text clock).outcome ∧ done.clock = (c.record text clock).clock ∧
      done.simulator = (c.record text clock).simulator

/-- Nothing becomes active before the run. -/
theorem activatedLines_stage (c : Config) :
    (c.stage (Recording.empty : Recording c.kind.Scene)).view.activatedLines = [] := by
  have hkinds : ∀ k, (c.stageAs (Recording.empty : Recording k.Scene) k).view.activatedLines = [] := by
    intro k
    cases k with
    | turtle => rfl
    | game => rfl
    | led => rfl
  exact hkinds c.kind

/-- A recorded simulation makes active the lines it enters, which are no more than there are. -/
theorem activatedLines_record (c : Config) (text : String) (clock : Clock) :
    let entered := Outcome.linesEntered (Script.parse text).length (c.record text clock).outcome
    (c.record text clock).view.activatedLines = List.range entered ∧
      entered ≤ (Script.parse text).length := by
  have hbefore := c.activatedLines_stage
  rw [record, Stage.run]
  generalize c.stage (Recording.empty : Recording c.kind.Scene) = stage at hbefore ⊢
  cases hrun : stage.simulator.run? text with
  | none =>
      rw [Simulator.runBlocking_of_none hrun]
      exact ⟨hbefore, Nat.zero_le _⟩
  | some started =>
      obtain ⟨hfree, w, hbegun, -⟩ := (Simulator.run?_eq_some_iff _ text started).mp hrun
      rw [Simulator.runBlocking_of_begun hfree hbegun]
      simp only [Recording.replay_eq, Script.linesEntered_transcript]
      refine ⟨?_, Passage.length_ofLines_le w _⟩
      rw [Recording.activatedLines_append, Script.activatedLines_transcript,
        show (⟨stage.view.events⟩ : Recording c.kind.Scene).activatedLines = [] from hbefore,
        List.nil_append]

/-- A simulation is as recorded, with what the terminal makes of the record. -/
theorem simulate_eq_record (c : Config) (text : String) (sink : Sink) (clock : Clock) :
    simulate c text sink clock =
      ⟨(c.record text clock).outcome,
        openingScreen text (sink.append
          (String.join ((c.record text clock).view.events.map (Event.told text)))),
        (c.record text clock).clock⟩ := by
  rw [simulate, run_stage_onto, Completion.onto, replay_openingScreen]
  rfl

/-- **A simulation tells its story** on the terminal, and no view has a part in it. -/
theorem simulate_tells_story (c : Config) (text : String) (clock : Clock) :
    c.Story text clock where
  written before := by
    rw [simulate_eq_record]
    rfl
  closed := by
    rw [simulate_eq_record]
    rfl
  echoed := (c.activatedLines_record text clock).1
  present := by
    intro line hline
    obtain ⟨hactive, hle⟩ := c.activatedLines_record text clock
    rw [hactive, List.mem_range] at hline
    have hlength : (Script.parse text).length = (splitLines text.toList).length := List.length_map _
    omega
  terminal sink := by
    refine ⟨rfl, ?_⟩
    rw [simulate_eq_record]
    exact ⟨rfl, rfl⟩
  views v := by
    rw [run_stage_onto]
    exact ⟨rfl, rfl, rfl⟩

end Config

end StepScript
