import StepScript.Proofs.Run.Machine
set_option autoImplicit false

/-!
# Runs: progress through a script

A session in the middle of a run keeps its promise to the transcript: its failed line and the lines
still to come lead to the last world and the first failure that the whole script leads to.

Main statements: `OnCourse.pause`, by which an advance keeps to the course, and `OnCourse.of_close`,
by which a session that stops for good has reached the last world of its script.
-/

namespace StepScript

namespace Session

/-- The number of the next line. -/
def position (s : Session) : Nat :=
  match s.phase with
  | .start => 0
  | .enter index => index
  | .leave index => index + 1
  | .tail | .conclude | .done _ => s.script.lines.length

/-- The lines still to come. -/
def remaining (s : Session) : List Line := s.script.lines.drop s.position

theorem remaining_eq_nil_of_line? {s : Session} (hend : s.script.line? s.position = none) :
    s.remaining = [] :=
  List.drop_eq_nil_of_le (List.getElem?_eq_none_iff.mp hend)

theorem remaining_eq_cons {s : Session} {l : Line} (hline : s.script.line? s.position = some l) :
    s.remaining = l :: s.script.lines.drop (s.position + 1) := by
  obtain ⟨hlt, rfl⟩ := List.getElem?_eq_some_iff.mp hline
  exact List.drop_eq_getElem_cons hlt

theorem remaining_eq_nil_of_position {s : Session} (hend : s.position = s.script.lines.length) :
    s.remaining = [] := by
  rw [remaining, hend, List.drop_length]

theorem stopAfterLines_cases (s : Session) : s.stopAfterLines = .tail ∨ s.stopAfterLines = .close := by
  unfold stopAfterLines
  split
  · exact .inr rfl
  · exact .inl rfl

theorem stopFrom_cases (s : Session) (index : Nat) :
    (∃ l, s.stopFrom index = .line index l ∧ s.script.line? index = some l) ∨
      ((s.stopFrom index = .tail ∨ s.stopFrom index = .close) ∧ s.script.line? index = none) := by
  unfold stopFrom
  cases s.script.line? index with
  | some l => exact .inl ⟨l, rfl, rfl⟩
  | none => exact .inr ⟨s.stopAfterLines_cases, rfl⟩

/-- Where a session stops: before its lines, on the next of them, or after them. -/
theorem stop_cases {s : Session} (hopen : s.isDone = false) :
    (s.stop = .settle ∧ s.phase = .start) ∨
      (∃ l, s.stop = .line s.position l ∧ s.script.line? s.position = some l) ∨
      ((s.stop = .tail ∨ s.stop = .close) ∧ s.remaining = []) := by
  -- The phases before and between the lines go on from the next line.
  have hlines : s.stop = s.stopFrom s.position →
      (∃ l, s.stop = .line s.position l ∧ s.script.line? s.position = some l) ∨
        ((s.stop = .tail ∨ s.stop = .close) ∧ s.remaining = []) := by
    intro hstop
    rw [hstop]
    rcases s.stopFrom_cases s.position with hline | ⟨hstop, hend⟩
    · exact .inl hline
    · exact .inr ⟨hstop, remaining_eq_nil_of_line? hend⟩
  cases hphase : s.phase with
  | start =>
      cases hzero : (Duration.ofMillis s.pacing.settle).isZero with
      | true => exact .inr (hlines (by simp [stop, position, hphase, hzero]))
      | false => exact .inl ⟨by simp [stop, hphase, hzero], rfl⟩
  | enter index => exact .inr (hlines (by simp [stop, position, hphase]))
  | leave index => exact .inr (hlines (by simp [stop, position, hphase]))
  | tail =>
      refine .inr (.inr ⟨?_, remaining_eq_nil_of_position (by simp [position, hphase])⟩)
      simpa only [stop, hphase] using s.stopAfterLines_cases
  | conclude =>
      refine .inr (.inr ⟨.inr ?_, remaining_eq_nil_of_position (by simp [position, hphase])⟩)
      simp [stop, hphase]
  | done o => simp [isDone, hphase] at hopen

/-! ## Courses -/

section Course

variable {W V : Type} [World W] [View V W]

/-- The session, in the world `w`, is on the course of its script from the world `start`. -/
structure OnCourse (start : W) (s : Session) (w : W) : Prop where
  /-- After a failure no line is left. -/
  failed : s.failedLine = none ∨ s.remaining = []
  /-- The lines left lead to the last world. -/
  lastWorld : Passage.lastWorld w (Passage.ofLines w s.remaining) =
    Passage.lastWorld start (Passage.ofLines start s.script.lines)
  /-- The first line to fail has failed, or it is the first to do so of the lines left. -/
  failure : s.failedLine.or
      ((Passage.failure? (Passage.ofLines w s.remaining)).map (· + s.position)) =
    Passage.failure? (Passage.ofLines start s.script.lines)

/-- A session is on course before its first advance. -/
theorem OnCourse.new (script : Script) (p : Pacing) (w : W) :
    OnCourse w (.new script p) w where
  failed := .inl rfl
  lastWorld := rfl
  failure := by
    rw [show (Session.new script p).failedLine = none from rfl,
      show (Session.new script p).position = 0 from rfl]
    simp [remaining, position, Session.new]

variable {start w : W} {s : Session}

/-- At the end of its lines a session has reached the last world and the first failure. -/
theorem OnCourse.of_remaining_eq_nil (hcourse : s.OnCourse start w) (hend : s.remaining = []) :
    w = Passage.lastWorld start (Passage.ofLines start s.script.lines) ∧
      s.failedLine = Passage.failure? (Passage.ofLines start s.script.lines) := by
  constructor
  · simpa [hend] using hcourse.lastWorld
  · simpa [hend] using hcourse.failure

/-- Past its lines a session stays on course. -/
theorem OnCourse.past_lines (hcourse : s.OnCourse start w) (hend : s.remaining = []) {phase : Phase}
    (hposition : ({ s with phase := phase } : Session).position = s.script.lines.length) :
    ({ s with phase := phase } : Session).OnCourse start w := by
  have hleft := remaining_eq_nil_of_position hposition
  obtain ⟨hworld, hfailure⟩ := hcourse.of_remaining_eq_nil hend
  exact ⟨.inr hleft, by simpa [hleft] using hworld, by simpa [hleft] using hfailure⟩

theorem OnCourse.settle (hcourse : s.OnCourse start w) (hphase : s.phase = .start) :
    ({ s with phase := .enter 0 } : Session).OnCourse start w := by
  have hposition : ({ s with phase := .enter 0 } : Session).position = s.position := by
    simp [position, hphase]
  have hremaining : ({ s with phase := .enter 0 } : Session).remaining = s.remaining := by
    rw [remaining, hposition, remaining]
  obtain ⟨hfailed, hworld, hfailure⟩ := hcourse
  exact ⟨by rwa [hremaining], by rwa [hremaining], by rwa [hremaining, hposition]⟩

/-- A line keeps to the course, whether it fails or not. -/
theorem OnCourse.line (hcourse : s.OnCourse start w) {l : Line}
    (hline : s.script.line? s.position = some l) :
    (s.afterPassage s.position (Passage.ofLine w l)).OnCourse start
      ((Passage.ofLine w l).worldAfter w) := by
  obtain ⟨hfailed, hworld, hfailure⟩ := hcourse
  have hremaining := remaining_eq_cons hline
  have hunfailed : s.failedLine = none := by
    rcases hfailed with hnone | hnil
    · exact hnone
    · rw [hremaining] at hnil
      cases hnil
  rw [hremaining] at hworld hfailure
  rw [hunfailed, Option.none_or] at hfailure
  cases hp : (Passage.ofLine w l).isFailed with
  | true =>
      rw [afterPassage_of_failed hp]
      rw [Passage.ofLines_cons_of_failed hp] at hworld hfailure
      rw [Passage.failure?_cons_of_failed hp] at hfailure
      have hleft : ({ s with
          executed := s.executed + 1, phase := .tail,
          failedLine := some s.position } : Session).remaining = [] :=
        remaining_eq_nil_of_position rfl
      exact ⟨.inr hleft, by simpa [hleft] using hworld, by simpa [hleft] using hfailure⟩
  | false =>
      rw [afterPassage_of_not_failed hp]
      rw [Passage.ofLines_cons_of_not_failed hp] at hworld hfailure
      rw [Passage.failure?_cons_of_not_failed hp] at hfailure
      refine ⟨.inl hunfailed, hworld, ?_⟩
      rw [hunfailed, Option.none_or, ← hfailure]
      simp only [remaining, position, Option.map_map, Function.comp_def]
      simp [Nat.add_assoc, Nat.add_comm]

/-- **Progress.**  An advance that pauses keeps to the course. -/
theorem OnCourse.pause (hcourse : s.OnCourse start w) (hopen : s.isDone = false)
    (hlive : s.cancelled = false) {v v' : V} {d : Duration} {s' : Session} {w' : W}
    (hturn : s.advance w v = ⟨.pause d, s', w', v'⟩) : s'.OnCourse start w' := by
  rw [advance_of_live hopen hlive] at hturn
  rcases stop_cases hopen with ⟨hstop, hphase⟩ | ⟨l, hstop, hline⟩ | ⟨hstop | hstop, hend⟩
  · rw [hstop] at hturn
    obtain ⟨-, rfl, rfl, -⟩ := Turn.mk.inj hturn
    exact hcourse.settle hphase
  · rw [hstop] at hturn
    obtain ⟨-, rfl, rfl, -⟩ := Turn.mk.inj hturn
    exact hcourse.line hline
  · rw [hstop] at hturn
    obtain ⟨-, rfl, rfl, -⟩ := Turn.mk.inj hturn
    exact hcourse.past_lines hend rfl
  · rw [hstop] at hturn
    cases hturn

/-- A session that stops for good has reached the last world of its script and the first failure. -/
theorem OnCourse.of_close (hcourse : s.OnCourse start w) (hopen : s.isDone = false)
    (hstop : s.stop = .close) :
    w = Passage.lastWorld start (Passage.ofLines start s.script.lines) ∧
      s.failedLine = Passage.failure? (Passage.ofLines start s.script.lines) := by
  rcases stop_cases hopen with ⟨hsettle, -⟩ | ⟨l, hline, -⟩ | ⟨-, hend⟩
  · rw [hsettle] at hstop
    cases hstop
  · rw [hline] at hstop
    cases hstop
  · exact hcourse.of_remaining_eq_nil hend

end Course

end Session

/-- All that an advance does to a session that is neither done nor cancelled: it pauses, with at most
one line done and on any course that it was on, or it closes with the ending of its world. -/
theorem Simulator.perform_advance_of_live {W : Type} [World W] {s : Simulator W} {session : Session}
    (hheld : s.session = some session) (hopen : session.isDone = false)
    (hlive : session.cancelled = false) :
    (session.stop ≠ .close ∧ ∃ d events session' w,
      s.perform .advance =
        ⟨.step (.pause d), events, { s with world := w, session := some session' }⟩ ∧
      session'.isDone = false ∧ session'.cancelled = false ∧
      (w = s.world ∨ ∃ l, w = (Passage.ofLine s.world l).worldAfter s.world) ∧
      ∀ start, session.OnCourse start s.world → session'.OnCourse start w) ∨
    (session.stop = .close ∧ ∃ events,
      s.perform .advance =
        ⟨.step (.finished (Ending.of session.failedLine s.world).outcome), events,
          { s with world := (Ending.of session.failedLine s.world).world, session := none }⟩) := by
  have hturn := session.advance_of_live hopen hlive s.world (Recording.empty : Recording W)
  have hregular := session.regular_stopAt session.stop s.world
    (View.replay (Recording.empty : Recording W) (session.lead s.world))
  cases hstop : session.stop with
  | close =>
      rw [hstop] at hturn
      exact .inr ⟨rfl, _, perform_advance_of_finished hheld hturn⟩
  | settle =>
      rw [hstop] at hturn
      exact .inl ⟨nofun, _, _, _, _, perform_advance_of_pause hheld hturn, rfl, hlive, .inl rfl,
        fun _ hcourse => hcourse.pause hopen hlive hturn⟩
  | tail =>
      rw [hstop] at hturn
      exact .inl ⟨nofun, _, _, _, _, perform_advance_of_pause hheld hturn, rfl, hlive, .inl rfl,
        fun _ hcourse => hcourse.pause hopen hlive hturn⟩
  | line index l =>
      rw [hstop] at hturn hregular
      cases hregular with
      | pause hcontinues hopen' =>
          exact .inl ⟨nofun, _, _, _, _, perform_advance_of_pause hheld hturn, hopen',
            hcontinues.2.2.trans hlive, .inr ⟨l, rfl⟩,
            fun _ hcourse => hcourse.pause hopen hlive hturn⟩

end StepScript
