import Mathlib.Data.List.Basic
import StepScript.Command.Check
import StepScript.Proofs.Game.Machine
import StepScript.Proofs.Run.Entered
import StepScript.Proofs.View.Story
set_option autoImplicit false

/-!
# Commands: a check foretells the run

A check goes over the lines of a text without a world, and a session goes over them one phase after
the other in a world that changes.  They agree: an entry of the check is a line that a session enters,
with the command that it runs there whatever the world, and in the order in which a run enters them.

An entry with an unknown command does nothing, so no run fails there.

Main statement: `check_foretells_run`, for every text and every kind.
-/

namespace StepScript

open Machine

/-! ## Entries -/

/-- The numbers up to one of them. -/
theorem filter_le_range {k n : Nat} (h : k < n) :
    (List.range n).filter (· ≤ k) = List.range (k + 1) := by
  obtain ⟨d, rfl⟩ := Nat.exists_eq_add_of_le (Nat.succ_le_of_lt h)
  have hbelow : (List.range (k + 1)).filter (· ≤ k) = List.range (k + 1) := by
    refine List.filter_eq_self.mpr ?_
    intro i hi
    have hlt := List.mem_range.mp hi
    exact decide_eq_true (Nat.lt_succ_iff.mp hlt)
  have habove : ((List.range d).map (k + 1 + ·)).filter (· ≤ k) = [] := by
    refine List.filter_eq_nil_iff.mpr ?_
    intro i hi
    obtain ⟨j, -, rfl⟩ := List.mem_map.mp hi
    simp only [decide_eq_true_eq]
    omega
  rw [List.range_add, List.filter_append, hbelow, habove, List.append_nil]

/-- Whether a script has a line with this number that is not blank. -/
def Script.isInked (s : Script) (line : Nat) : Bool := (s.line? line).any fun l => !l.isBlank

section World

variable {W : Type} [World W] {render : World.Command W → String}
  {isRecognized : World.Command W → Bool}

/-- The entries are the lines that are not blank, each with its number and its command. -/
theorem CheckReport.mem_entriesOf {s : Script} {e : CheckEntry} :
    e ∈ entriesOf W render isRecognized s ↔
      ∃ l, s.line? e.line = some l ∧ l.isBlank = false ∧ e.source = l.source ∧
        e.decoded = render (World.decode l) ∧ e.recognized = isRecognized (World.decode l) := by
  rw [entriesOf, List.mem_map]
  constructor
  · rintro ⟨⟨l, index⟩, hmem, rfl⟩
    obtain ⟨hline, hinked⟩ := List.mem_filter.mp hmem
    exact ⟨l, List.mem_zipIdx_iff_getElem?.mp hline, by simpa using hinked, rfl, rfl, rfl⟩
  · rintro ⟨l, hline, hinked, hsource, hdecoded, hrecognized⟩
    refine ⟨(l, e.line), List.mem_filter.mpr ⟨List.mem_zipIdx_iff_getElem?.mpr hline, ?_⟩, ?_⟩
    · simpa using hinked
    · obtain ⟨line, source, decoded, recognized⟩ := e
      subst hsource hdecoded hrecognized
      rfl

/-- In order, and each of them once. -/
theorem CheckReport.map_line_entriesOf (s : Script) :
    (entriesOf W render isRecognized s).map CheckEntry.line =
      (List.range s.length).filter s.isInked := by
  have hnumbers : List.range s.length = s.lines.zipIdx.map Prod.snd := by
    simp [Script.length, List.range_eq_range']
  have hinked : ∀ entry ∈ s.lines.zipIdx, (!entry.1.isBlank) = (s.isInked ∘ Prod.snd) entry := by
    rintro ⟨l, index⟩ hmem
    have hline : s.line? index = some l := List.mem_zipIdx_iff_getElem?.mp hmem
    simp [Script.isInked, hline]
  rw [entriesOf, hnumbers, List.filter_map, List.map_map, List.filter_congr hinked]
  rfl

/-- The source of a line is where the text has it. -/
theorem Script.source_eq_sourceAt {text : String} {line : Nat} {l : Line}
    (hline : (parse text).line? line = some l) : l.source = sourceAt text line := by
  rw [line?, parse, List.getElem?_map, Option.map_eq_some_iff] at hline
  obtain ⟨raw, hraw, rfl⟩ := hline
  rw [sourceAt, List.getD_eq_getElem?_getD, hraw]
  rfl

end World

/-! ## What is foretold -/

section Foretells

variable (W : Type) [World W] (render : World.Command W → String)
  (isRecognized : World.Command W → Bool) (text : String)

/-- What an entry of a check of a text says about the sessions of that text. -/
structure CheckEntry.Foretells (e : CheckEntry) : Prop where
  /-- It has the source of its line. -/
  source : e.source = sourceAt text e.line
  /-- It lists the command that a session runs there, in any world; an unknown one is idle. -/
  command : ∃ command : World.Command W,
    e.decoded = render command ∧ e.recognized = isRecognized command ∧
    (∀ {V : Type} [View V W] (session : Session) (w : W) (v : V),
      session.script = Script.parse text → session.entering e.line w v =
        { session with executed := session.executed + 1 }.execute e.line command w
          (View.observe v (Event.active (W := W) e.line true))) ∧
    (e.recognized = false → ∀ w : W, World.apply w command = .ok (w, .idle))
  /-- Where the command is unknown, a session takes the pause for idle lines, and leaves the world
  without showing it. -/
  idle : e.recognized = false → ∀ {V : Type} [View V W] (session : Session) (w : W) (v : V),
    session.script = Script.parse text → session.entering e.line w v =
      ⟨.pause (.ofMillis session.pacing.idle),
        { session with executed := session.executed + 1, phase := .leave e.line }, w,
        View.observe v (Event.active (W := W) e.line true)⟩

/-- An exchange executes an entry: it makes the line active and applies the command to the world that
it finds, unless that asks for an invalid move. -/
def CheckEntry.ExecutedBy {M R : Type} [Host M R W] (e : CheckEntry) (x : Exchange M R W) : Prop :=
  .active e.line true ∈ x.response.events ∧ ∃ command : World.Command W,
    e.decoded = render command ∧ (Host.simulator x.response.state).world =
      match World.apply (Host.simulator x.before).world command with
      | .ok (w, _) => w
      | .error _ => (Host.simulator x.before).world

/-- What a check of a text says about its runs. -/
structure CheckReport.Foretells (r : CheckReport) : Prop where
  /-- Its entries are the lines that are not blank, in order and each of them once. -/
  lines : r.entries.map CheckEntry.line =
    (List.range (Script.parse text).length).filter (Script.parse text).isInked
  entries : ∀ e ∈ r.entries, e.Foretells W render isRecognized text
  /-- A run that goes to its end makes the lines of the entries active, blank lines apart, and executes
  the entries. -/
  ranToEnd : ∀ {M R : Type} [Host M R W] {m : M} {rs : List R} {o : Outcome},
    Host.RunsTo m text rs o → o.ranToEnd = true →
      (Host.activatedLines m text rs).filter (Script.parse text).isInked =
          r.entries.map CheckEntry.line ∧
        ∀ e ∈ r.entries, ∃ x ∈ Host.runHistory m text rs, e.ExecutedBy W render x
  /-- A run is aborted on an entry with a known command, and does so with all entries up to there. -/
  aborted : ∀ {M R : Type} [Host M R W] {m : M} {rs : List R} {line : Nat},
    Host.RunsTo m text rs (.aborted line) →
      (∃ e ∈ r.entries, e.line = line ∧ e.recognized = true) ∧
      (Host.activatedLines m text rs).filter (Script.parse text).isInked =
          (r.entries.map CheckEntry.line).filter (· ≤ line) ∧
        ∀ e ∈ r.entries, e.line ≤ line → ∃ x ∈ Host.runHistory m text rs, e.ExecutedBy W render x
  /-- A run to the end, as a command makes it, is one of these runs, by advances alone; the events
  recorded are those of its exchanges. -/
  blocking : ∀ {s : Simulator W} {clock : Clock} {o : Outcome},
    (s.runBlocking text (Recording.empty : Recording W) clock).outcome = some o →
      ∃ n, Host.RunsTo s text (List.replicate n Request.advance) o ∧
        (s.runBlocking text (Recording.empty : Recording W) clock).view.events =
          (Host.runHistory s text (List.replicate n Request.advance)).flatMap
            (·.response.events)

end Foretells

section World

variable {W : Type} [World W] {render : World.Command W → String}
  {isRecognized : World.Command W → Bool}

/-- A session that enters a line runs its command. -/
theorem Session.entering_of_inked {V : Type} [View V W] {session : Session} {line : Nat} {l : Line}
    (hline : session.script.line? line = some l) (hinked : l.isBlank = false) (w : W) (v : V) :
    session.entering line w v =
      { session with executed := session.executed + 1 }.execute line (World.decode l) w
        (View.observe v (Event.active (W := W) line true)) := by
  simp only [entering, hline, hinked, Bool.false_eq_true, if_false]

theorem CheckReport.foretells_entry (hidle : ∀ c : World.Command W, isRecognized c = false →
    ∀ w : W, World.apply w c = .ok (w, .idle)) {text : String} {e : CheckEntry}
    (he : e ∈ entriesOf W render isRecognized (Script.parse text)) :
    e.Foretells W render isRecognized text := by
  obtain ⟨l, hline, hinked, hsource, hdecoded, hrecognized⟩ := mem_entriesOf.mp he
  have hentering {V : Type} [View V W] (session : Session) (w : W) (v : V)
      (hscript : session.script = Script.parse text) : session.entering e.line w v =
        { session with executed := session.executed + 1 }.execute e.line (World.decode l) w
          (View.observe v (Event.active (W := W) e.line true)) :=
    Session.entering_of_inked (by rwa [hscript]) hinked w v
  refine ⟨hsource.trans (Script.source_eq_sourceAt hline), ⟨World.decode l, hdecoded, hrecognized,
    hentering, fun hunknown => hidle _ (hrecognized.symm.trans hunknown)⟩, ?_⟩
  intro hunknown V _ session w v hscript
  have hnothing := hidle _ (hrecognized.symm.trans hunknown) w
  rw [hentering session w v hscript, Session.execute, World.act_of_ok hnothing]

/-- An entry whose line has become active has been executed. -/
theorem CheckEntry.executed_of_mem {text : String} {e : CheckEntry}
    (he : e ∈ CheckReport.entriesOf W render isRecognized (Script.parse text))
    {M R : Type} [Host M R W] {m : M} {rs : List R} {o : Outcome} (hrun : Host.RunsTo m text rs o)
    (hactive : e.line ∈ Host.activatedLines m text rs) :
    ∃ x ∈ Host.runHistory m text rs, e.ExecutedBy W render x := by
  obtain ⟨l, hline, hinked, -, hdecoded, -⟩ := CheckReport.mem_entriesOf.mp he
  obtain ⟨x, hx, hshown, hdoes⟩ := hrun.does hactive
  obtain ⟨l', hline', hworld⟩ := hdoes e.line hshown
  obtain rfl : l = l' := Option.some.inj (hline.symm.trans hline')
  refine ⟨x, hx, hshown, World.decode l, hdecoded, ?_⟩
  rw [hworld, Passage.ofLine, hinked, if_neg Bool.false_ne_true]
  cases World.apply (Host.simulator x.before).world (World.decode l) with
  | error e => rfl
  | ok left => rfl

/-- A line that fails in some world is an entry with a known command. -/
theorem CheckReport.exists_entry_of_failsAt (hidle : ∀ c : World.Command W, isRecognized c = false →
    ∀ w : W, World.apply w c = .ok (w, .idle)) {s : Script} {line : Nat} (h : s.FailsAt W line) :
    ∃ e ∈ entriesOf W render isRecognized s, e.line = line ∧ e.recognized = true := by
  obtain ⟨l, hline, w, e, hfailed⟩ := h
  have hinked : l.isBlank = false := by
    cases hblank : l.isBlank with
    | false => rfl
    | true =>
        rw [Passage.ofLine, hblank, if_pos rfl] at hfailed
        cases hfailed
  have hknown : isRecognized (World.decode l) = true := by
    cases hrecognized : isRecognized (World.decode (W := W) l) with
    | true => rfl
    | false =>
        rw [Passage.ofLine, hinked, if_neg Bool.false_ne_true, hidle _ hrecognized w] at hfailed
        cases hfailed
  exact ⟨⟨line, l.source, render (World.decode l), isRecognized (World.decode (W := W) l)⟩,
    mem_entriesOf.mpr ⟨l, hline, hinked, rfl, rfl, rfl⟩, rfl, hknown⟩

/-- **A check foretells the run**, where unknown commands are idle. -/
theorem CheckReport.foretells (hidle : ∀ c : World.Command W, isRecognized c = false →
    ∀ w : W, World.apply w c = .ok (w, .idle)) (text : String) :
    (⟨entriesOf W render isRecognized (Script.parse text)⟩ : CheckReport).Foretells W render
      isRecognized text where
  lines := map_line_entriesOf _
  entries _ he := foretells_entry hidle he
  ranToEnd {M R _ m rs o} hrun hran := by
    have hactive := hrun.entered.1 hran
    refine ⟨?_, ?_⟩
    · rw [hactive, map_line_entriesOf]
      rfl
    · intro e he
      refine e.executed_of_mem he hrun ?_
      obtain ⟨l, hline, -⟩ := mem_entriesOf.mp he
      rw [hactive, List.mem_range]
      exact (List.getElem?_eq_some_iff.mp hline).1
  aborted {M R _ m rs line} hrun := by
    obtain ⟨hfails, hactive⟩ := hrun.entered.2 line rfl
    refine ⟨exists_entry_of_failsAt hidle hfails, ?_, ?_⟩
    · obtain ⟨l, hline, -⟩ := hfails
      have hlt : line < (Script.parse text).length := (List.getElem?_eq_some_iff.mp hline).1
      rw [hactive, map_line_entriesOf, List.filter_comm, filter_le_range hlt]
    · intro e he hle
      refine e.executed_of_mem he hrun ?_
      rw [hactive, List.mem_range]
      omega
  blocking hrun := Simulator.runsTo_of_runBlocking hrun

end World

/-- **Checks foretell runs**, for every text and for the commands of every kind: those of the turtle,
on its own or in a game, and those of the panel. -/
theorem check_foretells_run (text : String) :
    (CheckReport.build .turtle (Script.parse text)).Foretells Turtle TurtleCommand.text
        TurtleCommand.isRecognized text ∧
      (CheckReport.build .game (Script.parse text)).Foretells Turtle TurtleCommand.text
        TurtleCommand.isRecognized text ∧
      (CheckReport.build .led (Script.parse text)).Foretells Panel PanelCommand.text
        PanelCommand.isRecognized text := by
  have hturtle : ∀ c : TurtleCommand, c.isRecognized = false →
      ∀ t : Turtle, World.apply t c = .ok (t, .idle) := by
    intro c hunknown t
    cases c with
    | noop => rfl
    | forward d => cases hunknown
    | back d => cases hunknown
    | right d => cases hunknown
    | left d => cases hunknown
  have hpanel : ∀ c : PanelCommand, c.isRecognized = false →
      ∀ p : Panel, World.apply p c = .ok (p, .idle) := by
    intro c hunknown p
    cases c with
    | noop => rfl
    | invalid => rfl
    | switch lamp on => cases hunknown
    | wait d => cases hunknown
    | clear => cases hunknown
  exact ⟨CheckReport.foretells hturtle text, CheckReport.foretells hturtle text,
    CheckReport.foretells hpanel text⟩

end StepScript
