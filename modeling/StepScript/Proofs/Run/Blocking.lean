import StepScript.Board.Turtle
import StepScript.Proofs.Run.Machine
set_option autoImplicit false

/-!
# Runs: a run to the end is its transcript

`Simulator.drive` takes a session from one pause to the next.  Main statement:
`runBlocking_eq_transcript`, by which an accepted run always ends, and with the outcome, the world,
the pauses and the events of the transcript of its script.

The proof follows the phases.  `resume` is what is left to do after one turn of the session; the end
of the script, the tail and the lines each get one equation for it, and the one for the lines is by
induction on the lines still to come.
-/

namespace StepScript

/-- Nanoseconds of several durations together. -/
def Duration.totalNanos (ds : List Duration) : Nat := ds.foldr (fun d n => d.nanos + n) 0

@[simp] theorem Duration.totalNanos_nil : totalNanos [] = 0 := rfl

@[simp] theorem Duration.totalNanos_cons (d : Duration) (ds : List Duration) :
    totalNanos (d :: ds) = d.nanos + totalNanos ds := rfl

namespace Clock

/-- Lets several pauses pass. -/
def pauseAll (c : Clock) (ds : List Duration) : Clock := ds.foldl pause c

@[simp] theorem pauseAll_nil (c : Clock) : c.pauseAll [] = c := rfl

@[simp] theorem pauseAll_cons (c : Clock) (d : Duration) (ds : List Duration) :
    c.pauseAll (d :: ds) = (c.pause d).pauseAll ds := rfl

theorem pauseAll_append (c : Clock) (a b : List Duration) :
    c.pauseAll (a ++ b) = (c.pauseAll a).pauseAll b := by
  simp [pauseAll]

theorem pauses_pauseAll (c : Clock) (ds : List Duration) :
    (c.pauseAll ds).pauses = c.pauses ++ ds := by
  induction ds generalizing c with
  | nil => simp
  | cons d ds ih => simp [ih]

theorem pauses_pauseAll_start (ds : List Duration) : (start.pauseAll ds).pauses = ds := by
  rw [pauses_pauseAll]
  rfl

/-- Time stops at the longest duration, whatever the order of the pauses. -/
theorem elapsed_pauseAll (c : Clock) (ds : List Duration) :
    (c.pauseAll ds).elapsed.nanos =
      min (c.elapsed.nanos + Duration.totalNanos ds) maxNanos := by
  induction ds generalizing c with
  | nil =>
      have hle := c.elapsed.nanos_le
      simp only [pauseAll_nil, Duration.totalNanos_nil, Nat.add_zero]
      omega
  | cons d ds ih =>
      rw [pauseAll_cons, ih, elapsed_pause, Duration.nanos_add, Duration.totalNanos_cons]
      omega

end Clock

/-- An end as the completion of a simulator's run. -/
def Ending.completion {W V : Type} [View V W] (e : Ending W) (s : Simulator W) (v : V)
    (clock : Clock) : Completion W V :=
  ⟨some e.outcome, { s with world := e.world, session := none }, View.replay v e.events, clock⟩

namespace Simulator

variable {W V : Type} [World W] [View V W]

/-- What is left of a run after one turn of its session. -/
def resume (fuel : Nat) (s : Simulator W) (t : Turn W V) (clock : Clock) : Completion W V :=
  match t.step with
  | .pause d =>
      drive fuel { s with world := t.world, session := some t.session } t.view (clock.pause d)
  | .finished o => ⟨some o, { s with world := t.world, session := none }, t.view, clock⟩
  | .idle => ⟨none, { s with world := t.world, session := some t.session }, t.view, clock⟩

theorem drive_succ {s : Simulator W} {session : Session} (hheld : s.session = some session)
    (fuel : Nat) (v : V) (clock : Clock) :
    s.drive (fuel + 1) v clock = s.resume fuel (session.advance s.world v) clock := by
  simp only [drive, advance, hheld, resume]
  cases (session.advance s.world v).step <;> rfl

theorem resume_pause (fuel : Nat) (s : Simulator W) (d : Duration) (session : Session) (w : W)
    (v : V) (clock : Clock) (hfuel : 0 < fuel) :
    s.resume fuel ⟨.pause d, session, w, v⟩ clock =
      s.resume (fuel - 1) (session.advance w v) (clock.pause d) := by
  obtain ⟨fuel, rfl⟩ : ∃ n, fuel = n + 1 := ⟨fuel - 1, by omega⟩
  exact drive_succ (s := { s with world := w, session := some session }) rfl fuel v _

/-- The end of the script. -/
theorem resume_concluding (fuel : Nat) (s : Simulator W) (session : Session) (w : W) (v : V)
    (clock : Clock) :
    s.resume fuel (session.concluding w v) clock =
      (Ending.of session.failedLine w).completion s v clock := by
  rw [Session.concluding_eq]
  rfl

/-- The tail: at most one more pause. -/
theorem resume_tailing {session : Session} (hlive : session.cancelled = false) {fuel : Nat}
    (hfuel : 0 < fuel) (s : Simulator W) (w : W) (v : V) (clock : Clock) :
    s.resume fuel (session.tailing w v) clock =
      (Ending.of session.failedLine w).completion s v
        (clock.pauseAll (Pacing.gap session.pacing.tail)) := by
  cases hzero : (Duration.ofMillis session.pacing.tail).isZero with
  | true =>
      rw [Session.tailing_of_isZero hzero, Pacing.gap_of_isZero hzero, Clock.pauseAll_nil]
      exact resume_concluding fuel s session w v clock
  | false =>
      rw [Session.tailing_of_not_isZero hzero, Pacing.gap_of_not_isZero hzero,
        resume_pause _ _ _ _ _ _ _ hfuel,
        Session.advance_of_conclude (s := { session with phase := .conclude }) rfl hlive,
        resume_concluding, Clock.pauseAll_cons, Clock.pauseAll_nil]

/-- What is left once `ls` are the lines still to come, from line `index` on, while none has failed:
the first of them that fails is the run's failed line. -/
def remaining (p : Pacing) (index : Nat) (ls : List Line) (s : Simulator W) (w : W) (v : V)
    (clock : Clock) : Completion W V :=
  let passages := Passage.ofLines w ls
  (Ending.of ((Passage.failure? passages).map (· + index))
    (Passage.lastWorld w passages)).completion s
    (View.replay v (Passage.eventsFrom index passages))
    ((clock.pauseAll (passages.map (Passage.pause p))).pauseAll (Pacing.gap p.tail))

theorem remaining_nil (p : Pacing) (index : Nat) (s : Simulator W) (w : W) (v : V) (clock : Clock) :
    remaining p index [] s w v clock =
      (Ending.of none w).completion s v (clock.pauseAll (Pacing.gap p.tail)) := by
  simp [remaining]

theorem remaining_of_failed {w : W} {l : Line} (hp : (Passage.ofLine w l).isFailed = true)
    (p : Pacing) (index : Nat) (ls : List Line) (s : Simulator W) (v : V) (clock : Clock) :
    remaining p index (l :: ls) s w v clock =
      (Ending.of (some index) ((Passage.ofLine w l).worldAfter w)).completion s
        (View.replay v ((Passage.ofLine w l).entered index))
        ((clock.pause ((Passage.ofLine w l).pause p)).pauseAll (Pacing.gap p.tail)) := by
  simp [remaining, Passage.ofLines_cons_of_failed hp, Passage.failure?_cons_of_failed hp,
    Passage.events, hp]

theorem remaining_of_not_failed {w : W} {l : Line} (hp : (Passage.ofLine w l).isFailed = false)
    (p : Pacing) (index : Nat) (ls : List Line) (s : Simulator W) (v : V) (clock : Clock) :
    remaining p index (l :: ls) s w v clock =
      remaining p (index + 1) ls s ((Passage.ofLine w l).worldAfter w)
        (View.observe (View.replay v ((Passage.ofLine w l).entered index))
          (Event.active (W := W) index false))
        (clock.pause ((Passage.ofLine w l).pause p)) := by
  simp only [remaining, Passage.ofLines_cons_of_not_failed hp, Passage.failure?_cons_of_not_failed hp,
    Passage.events, hp, Passage.eventsFrom_cons, Passage.lastWorld_cons, View.replay_append]
  simp [Function.comp_def, Nat.add_assoc, Nat.add_comm 1]

/-- The lines of a script, by induction on those still to come. -/
theorem resume_entering {ls : List Line} :
    ∀ {index fuel : Nat} {session : Session} (s : Simulator W) (w : W) (v : V) (clock : Clock),
      session.cancelled = false → session.failedLine = none →
      session.script.lines.drop index = ls → ls.length < fuel →
      s.resume fuel (session.entering index w v) clock =
        remaining session.pacing index ls s w v clock := by
  induction ls with
  | nil =>
      intro index fuel session s w v clock hlive hunfailed hrest hfuel
      have hend : session.script.line? index = none :=
        List.getElem?_eq_none (List.drop_eq_nil_iff.mp hrest)
      rw [Session.entering_of_end hend, resume_tailing hlive hfuel, hunfailed, remaining_nil]
  | cons l ls ih =>
      intro index fuel session s w v clock hlive hunfailed hrest hfuel
      have hline : session.script.line? index = some l := by
        have hhead := congrArg List.head? hrest
        rwa [List.head?_drop, List.head?_cons] at hhead
      have hnext : session.script.lines.drop (index + 1) = ls := by
        have htail := congrArg List.tail hrest
        rwa [List.tail_drop, List.tail_cons] at htail
      rw [List.length_cons] at hfuel
      rw [Session.entering_of_line hline, resume_pause _ _ _ _ _ _ _ (by omega)]
      cases hp : (Passage.ofLine w l).isFailed with
      | true =>
          -- The failed line is the last one: only the tail is left.
          rw [Session.afterPassage_of_failed hp, remaining_of_failed hp,
            Session.advance_of_tail (s := { session with
              executed := session.executed + 1, phase := .tail, failedLine := some index }) rfl hlive]
          have hleft : 0 < fuel - 1 := by omega
          exact resume_tailing (by exact hlive) hleft s _ _ _
      | false =>
          rw [Session.afterPassage_of_not_failed hp, remaining_of_not_failed hp,
            Session.advance_of_leave (s := { session with
              executed := session.executed + 1, phase := .leave index }) rfl hlive]
          have hleft : ls.length < fuel - 1 := by omega
          exact ih s _ _ _ (by exact hlive) (by exact hunfailed) (by exact hnext) hleft

/-- Settling and all lines make up the transcript. -/
theorem remaining_zero (p : Pacing) (script : Script) (s : Simulator W) (w : W) (v : V)
    (clock : Clock) :
    remaining p 0 script.lines s w (View.observe v (Event.render w))
        (clock.pauseAll (Pacing.gap p.settle)) =
      let t := script.transcript p w
      ⟨some t.outcome, { s with world := t.world, session := none }, View.replay v t.events,
        clock.pauseAll t.pauses⟩ := by
  simp [remaining, Script.transcript, Ending.completion, View.replay_append,
    Clock.pauseAll_append]

/-- A session that has not started yet runs its whole script, given one advance for each line, two
for the pauses around the lines and one for the end. -/
theorem drive_started {s : Simulator W} {script : Script} {p : Pacing}
    (hheld : s.session = some (.new script p)) {fuel : Nat} (hfuel : script.length + 3 ≤ fuel)
    (v : V) (clock : Clock) :
    s.drive fuel v clock =
      let t := script.transcript p s.world
      ⟨some t.outcome, { s with world := t.world, session := none }, View.replay v t.events,
        clock.pauseAll t.pauses⟩ := by
  obtain ⟨fuel, rfl⟩ : ∃ n, fuel = n + 1 := ⟨fuel - 1, by omega⟩
  have hlines : script.lines.length + 1 < fuel := by
    have : script.length = script.lines.length := rfl
    omega
  rw [drive_succ hheld, Session.advance_of_start rfl rfl, ← remaining_zero]
  cases hzero : (Duration.ofMillis p.settle).isZero with
  | true =>
      rw [Session.starting_of_isZero (s := .new script p) hzero, Pacing.gap_of_isZero hzero]
      exact resume_entering s _ _ _ rfl rfl rfl (by omega)
  | false =>
      rw [Session.starting_of_not_isZero (s := .new script p) hzero,
        Pacing.gap_of_not_isZero hzero, resume_pause _ _ _ _ _ _ _ (by omega),
        Session.advance_of_enter (s := { Session.new script p with phase := .enter 0 }) rfl rfl]
      exact resume_entering s _ _ _ rfl rfl rfl (by omega)

/-- A run that is accepted ends as its transcript does, whatever looks at it. -/
theorem runBlocking_of_begun {s : Simulator W} {text : String} {w : W} (hfree : s.isRunning = false)
    (hbegun : World.begin? s.world (Script.parse text) = some w) (v : V) (clock : Clock) :
    s.runBlocking text v clock =
      let t := (Script.parse text).transcript s.pacing w
      ⟨some t.outcome, { s with world := t.world, session := none, accepted := s.accepted + 1 },
        View.replay v t.events, clock.pauseAll t.pauses⟩ := by
  have hrun := (run?_eq_some_iff s text _).mpr ⟨hfree, w, hbegun, rfl⟩
  rw [runBlocking_of_some hrun]
  exact drive_started rfl (Nat.le_refl _) v clock

theorem outcome_runBlocking {s : Simulator W} {text : String} {w : W} (hfree : s.isRunning = false)
    (hbegun : World.begin? s.world (Script.parse text) = some w) (v : V) (clock : Clock) :
    (s.runBlocking text v clock).outcome =
      some ((Script.parse text).transcript s.pacing w).outcome :=
  congrArg Completion.outcome (runBlocking_of_begun hfree hbegun v clock)

/-- **A run to the end is its transcript.**  An accepted run ends; its outcome, the world it leaves,
its pauses and its events are those of the transcript of its script in the world that the run found,
made ready.  The transcript enters every line up to the first that fails.  Its pauses add up to the
time that passes, and no larger number of advances would change any of it. -/
theorem runBlocking_eq_transcript {s started : Simulator W} {text : String}
    (haccepted : s.run? text = some started) :
    let t := (Script.parse text).transcript s.pacing started.world
    let passages := Passage.ofLines started.world (Script.parse text).lines
    let c := s.runBlocking text (Recording.empty : Recording W) Clock.start
    World.begin? s.world (Script.parse text) = some started.world ∧
      passages.length =
        ((Passage.failure? passages).map (· + 1)).getD (Script.parse text).lines.length ∧
      c.outcome = some t.outcome ∧
      c.simulator = { started with world := t.world, session := none } ∧
      c.clock.pauses = t.pauses ∧
      c.clock.elapsed.nanos = min (Duration.totalNanos t.pauses) maxNanos ∧
      c.view.events = t.events ∧
      ∀ fuel, started.stepBudget ≤ fuel →
        started.drive fuel (Recording.empty : Recording W) Clock.start = c := by
  obtain ⟨hbegun, hheld⟩ : World.begin? s.world (Script.parse text) = some started.world ∧
      started.session = some (.new (Script.parse text) s.pacing) := by
    obtain ⟨-, w, hw, rfl⟩ := (run?_eq_some_iff s text started).mp haccepted
    exact ⟨hw, rfl⟩
  have hdrive := fun (fuel : Nat) (hfuel : (Script.parse text).length + 3 ≤ fuel) =>
    drive_started hheld hfuel (Recording.empty : Recording W) Clock.start
  have hbudget : started.stepBudget = (Script.parse text).length + 3 := by
    rw [stepBudget, hheld]
    rfl
  have hrun : s.runBlocking text (Recording.empty : Recording W) Clock.start =
      started.drive started.stepBudget Recording.empty Clock.start :=
    runBlocking_of_some haccepted _ _
  rw [hrun, hbudget, hdrive _ (Nat.le_refl _)]
  refine ⟨hbegun, Passage.length_ofLines _ _, rfl, rfl, ?_, ?_, ?_, hdrive⟩
  · have hpauses := Clock.pauses_pauseAll Clock.start
      ((Script.parse text).transcript s.pacing started.world).pauses
    rwa [show Clock.start.pauses = [] from rfl, List.nil_append] at hpauses
  · have helapsed := Clock.elapsed_pauseAll Clock.start
      ((Script.parse text).transcript s.pacing started.world).pauses
    rwa [show Clock.start.elapsed.nanos = 0 from rfl, Nat.zero_add] at helapsed
  · have hevents := Recording.events_replay Recording.empty
      ((Script.parse text).transcript s.pacing started.world).events
    rwa [show (Recording.empty : Recording W).events = [] from rfl, List.nil_append] at hevents

/-- The fourth line leaves the board: the run goes on to its tail, and the fifth is not entered. -/
theorem runBlocking_of_move_off_board :
    let s := Simulator.new (Turtle.new ⟨8, 0.001⟩ 0.5) .turtle
    let text := "ANDA 1\n\nPULA\nTRAS 9\nANDA 1"
    let c := s.runBlocking text (Recording.empty : Recording Turtle) Clock.start
    (s.run? text).isSome = true ∧ c.outcome = some (.aborted 3) ∧
      c.clock.pauses.map Duration.nanos =
        [500000000, 600000000, 100000000, 200000000, 1000000000, 1000000000] := by
  intro s text c
  have haccepted : s.run? text = some _ := rfl
  obtain ⟨-, -, houtcome, -, hpauses, -, -, -⟩ := runBlocking_eq_transcript haccepted
  refine ⟨congrArg Option.isSome haccepted, houtcome.trans ?_, (congrArg _ hpauses).trans ?_⟩
  · decide +kernel
  · decide +kernel

end Simulator

end StepScript
