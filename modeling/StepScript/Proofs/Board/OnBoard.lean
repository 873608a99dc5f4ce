import StepScript.Proofs.Game.PlaySession
set_option autoImplicit false

/-!
# Board: the turtle stays on it

Whatever a turtle simulator or a game is asked, the turtle is where it starts or at a position that
the guard accepts.  A run that a line aborts has given notice of the position which that line asked
for, and leaves the turtle where the lines before it took it.

Main statement: `turtle_stays_on_board`.
-/

namespace StepScript

open Machine

/-! ## The turtle -/

/-- The turtle is on the board of the guard `g`, with the win radius it was made with. -/
structure Turtle.OnBoard (g : Guard) (radius : Float) (t : Turtle) : Prop where
  guard_eq : t.guard = g
  winRadius_eq : t.winRadius = radius
  position : (t.pose.x = 0.0 ∧ t.pose.y = 0.0) ∨ g.check t.pose.x t.pose.y = .ok ()

namespace Turtle.OnBoard

variable {g : Guard} {radius : Float} {t : Turtle}

theorem new (g : Guard) (radius : Float) : (Turtle.new g radius).OnBoard g radius :=
  ⟨rfl, rfl, .inl ⟨rfl, rfl⟩⟩

theorem goHome (h : t.OnBoard g radius) : t.goHome.OnBoard g radius :=
  ⟨h.guard_eq, h.winRadius_eq, .inl ⟨rfl, rfl⟩⟩

theorem setTarget (h : t.OnBoard g radius) (target : Option Square) :
    (t.setTarget target).OnBoard g radius :=
  ⟨h.guard_eq, h.winRadius_eq, h.position⟩

theorem apply (h : t.OnBoard g radius) {c : TurtleCommand} {t' : Turtle} {effect : Effect}
    (happly : t.apply c = .ok (t', effect)) : t'.OnBoard g radius := by
  rcases apply_cases happly with ⟨x, y, -, hcheck, rfl⟩ | ⟨degrees, -, rfl⟩ | ⟨-, rfl⟩
  · rw [h.guard_eq] at hcheck
    exact ⟨h.guard_eq, h.winRadius_eq, .inr hcheck⟩
  · exact ⟨h.guard_eq, h.winRadius_eq, h.position⟩
  · exact h

/-- Whatever writes to the turtle leaves it on its board. -/
theorem keeps (g : Guard) (radius : Float) : World.Keeps (Turtle.OnBoard g radius) where
  begin t script t' hbegun h := by
    obtain rfl : t.goHome = t' := Option.some.inj hbegun
    exact h.goHome
  apply t c t' effect happly h := by
    rw [world_apply] at happly
    exact h.apply happly
  conclude t verdict t' hjudged h := by
    rw [world_conclude?] at hjudged
    obtain ⟨_, -, hleft⟩ := Option.map_eq_some_iff.mp hjudged
    obtain ⟨-, rfl⟩ := Prod.mk.inj hleft
    exact h.goHome.setTarget none
  reset t h := h.goHome.setTarget none

/-- A reset gives the first turtle back. -/
theorem reset_eq (h : t.OnBoard g radius) : t.reset = Turtle.new g radius := by
  rw [← h.guard_eq, ← h.winRadius_eq]
  rfl

/-- The coordinates of a turtle on its board are numbers. -/
theorem isNumber (h : t.OnBoard g radius) :
    t.pose.x.isNaN = false ∧ t.pose.y.isNaN = false := by
  rcases h.position with ⟨hx, hy⟩ | hcheck
  · rw [hx, hy]
    decide
  · exact Guard.isNumber_of_check hcheck

/-- On a board with finite bounds the coordinates are finite. -/
theorem isFinite (h : t.OnBoard g radius) (hbounded : g.IsBounded) :
    t.pose.x.isFinite = true ∧ t.pose.y.isFinite = true := by
  rcases h.position with ⟨hx, hy⟩ | hcheck
  · rw [hx, hy]
    decide
  · exact Guard.isFinite_of_check hbounded hcheck

end Turtle.OnBoard

/-! ## Failures -/

/-- A line that fails is a move, and the guard refuses the position that it asks for. -/
theorem Turtle.refused_of_ofLine {t : Turtle} {l : Line} {e : InvalidMove}
    (hread : Passage.ofLine t l = .failed e) :
    ∃ d, (TurtleCommand.ofLine l).distance? = some d ∧
      e = ⟨t.pose.x + (t.pose.displacement d).1, t.pose.y + (t.pose.displacement d).2⟩ ∧
        t.guard.check e.x e.y = .error e := by
  unfold Passage.ofLine at hread
  split at hread
  · cases hread
  · cases happly : World.apply t (World.decode l) with
    | ok left =>
        rw [happly] at hread
        cases hread
    | error refused =>
        rw [happly] at hread
        obtain rfl := Passage.failed.inj hread
        rw [world_apply_decode] at happly
        exact (t.movesWhole.error_iff _ _).mp happly

namespace Simulator

/-- The session held fails at a line, which asks for a position that the board does not have. -/
structure FailsAt (s : Simulator Turtle) (session : Session) (line : Nat) (e : InvalidMove) :
    Prop where
  held : s.session = some session
  /-- The line is a move, and the guard refuses the position that it asks for. -/
  refused : ∃ l d, session.script.lines[line]? = some l ∧
    (TurtleCommand.ofLine l).distance? = some d ∧
      e = ⟨s.world.pose.x + (s.world.pose.displacement d).1,
        s.world.pose.y + (s.world.pose.displacement d).2⟩ ∧
          s.world.guard.check e.x e.y = .error e
  /-- It is the first line to fail when the script is read from home. -/
  first : Passage.failure? (Passage.ofLines s.world.goHome session.script.lines) = some line
  /-- The turtle is where the lines before it took it. -/
  before : s.world = Passage.lastWorld s.world.goHome
    ((Passage.ofLines s.world.goHome session.script.lines).take line)

/-- A session that has come to the last turtle of its script fails at the first line that does. -/
theorem failsAt_of_failure? {s : Simulator Turtle} {session : Session} {line : Nat}
    (hheld : s.session = some session)
    (hworld : s.world = Passage.lastWorld s.world.goHome
      (Passage.ofLines s.world.goHome session.script.lines))
    (hfailure : Passage.failure? (Passage.ofLines s.world.goHome session.script.lines) =
      some line) :
    ∃ l e, session.script.lines[line]? = some l ∧ Passage.ofLine s.world l = .failed e ∧
      s.FailsAt session line e := by
  obtain ⟨l, e, hl, hread, hlast⟩ := Passage.of_failure? hfailure
  have hbefore := hworld.trans hlast
  rw [← hbefore] at hread
  obtain ⟨d, hmove, he, hcheck⟩ := Turtle.refused_of_ofLine hread
  exact ⟨l, e, hl, hread, hheld, ⟨l, d, hl, hmove, he, hcheck⟩, hfailure, hbefore⟩

/-- A session that closes with a failed line fails at that line. -/
theorem FromHome.failsAt_of_close {s : Simulator Turtle} (h : s.FromHome) {session : Session}
    {line : Nat} (hheld : s.session = some session) (hlive : session.cancelled = false)
    (hend : session.remaining = []) (hfailed : session.failedLine = some line) :
    ∃ e, s.HasFailed line e ∧ s.FailsAt session line e := by
  obtain ⟨hworld, hfailure⟩ := (h.course session hheld hlive).of_remaining_eq_nil hend
  rw [hfailed] at hfailure
  obtain ⟨l, e, hl, hread, hfails⟩ := failsAt_of_failure? hheld hworld hfailure.symm
  exact ⟨e, ⟨session, l, hheld, hlive, hfailed, hl, hread⟩, hfails⟩

/-- A line that fails now is the first line of its script to do so. -/
theorem FromHome.failsAt_of_line {s : Simulator Turtle} (h : s.FromHome) {session : Session}
    {l : Line} {e : InvalidMove} (hheld : s.session = some session)
    (hlive : session.cancelled = false)
    (hline : session.script.line? session.position = some l)
    (hread : Passage.ofLine s.world l = .failed e) :
    s.FailsAt session session.position e := by
  obtain ⟨hlast, hworld, hfailure⟩ := h.course session hheld hlive
  have hremaining := Session.remaining_eq_cons hline
  have hfailed : (Passage.ofLine s.world l).isFailed = true := by
    rw [hread]
    rfl
  have hunfailed : session.failedLine = none := by
    rcases hlast with hnone | hnil
    · exact hnone
    · rw [hremaining] at hnil
      cases hnil
  rw [hremaining, Passage.ofLines_cons_of_failed hfailed, hread] at hworld hfailure
  rw [hunfailed] at hfailure
  simp only [Passage.failure?_cons_of_failed (p := .failed e) rfl, Option.map_some, Nat.zero_add,
    Option.none_or] at hfailure
  obtain ⟨l', e', hl', hread', hfails⟩ := failsAt_of_failure? hheld hworld hfailure.symm
  obtain rfl : l = l' := Option.some.inj (hline.symm.trans hl')
  obtain rfl := Passage.failed.inj (hread.symm.trans hread')
  exact hfails

theorem notice_not_mem_lead (session : Session) (t : Turtle) (n : Notice) :
    Event.notice n ∉ session.lead t := by
  unfold Session.lead
  split <;> simp

theorem notice_not_mem_ending (failure? : Option Nat) (t : Turtle) (line : Nat) (x y : Float) :
    Event.notice (.invalidMove line x y) ∉ (Ending.of failure? t).events := by
  unfold Ending.of
  cases failure? with
  | some line => simp
  | none =>
      cases World.conclude? t with
      | none => simp
      | some judged =>
          obtain ⟨verdict, left⟩ := judged
          cases verdict <;> simp [Notice.ofVerdict]

/-- A notice of an invalid move is given by an advance at whose line the session fails. -/
theorem FromHome.failsAt_of_notice {s : Simulator Turtle} (h : s.FromHome) {r : Request}
    {line : Nat} {x y : Float} (hnotice : .notice (.invalidMove line x y) ∈ (s.perform r).events) :
    (s.perform r).state.world = s.world ∧ ∃ session, s.FailsAt session line ⟨x, y⟩ := by
  cases r with
  | run text =>
      rcases s.perform_run_cases text with hr | ⟨t, -, hr⟩
      · simp [hr] at hnotice
      · simp [hr] at hnotice
  | reset =>
      have hnone : Event.notice (.invalidMove line x y) ∉ [Event.render (World.reset s.world)] := by
        simp
      exact absurd hnotice hnone
  | setPacing p => exact absurd hnotice List.not_mem_nil
  | cancel t => exact absurd hnotice List.not_mem_nil
  | advance =>
      cases s.advances with
      | idle _ hr => simp [hr] at hnotice
      | done _ _ hr => simp [hr] at hnotice
      | cancelled _ _ _ hr => simp [hr] at hnotice
      | settle _ _ _ hr => simp [hr] at hnotice
      | tail _ _ _ _ hr =>
          rw [hr] at hnotice
          exact absurd hnotice (notice_not_mem_lead _ _ _)
      | close _ _ _ _ hr =>
          rw [hr] at hnotice
          rcases List.mem_append.mp hnotice with hlead | hending
          · exact absurd hlead (notice_not_mem_lead _ _ _)
          · exact absurd hending (notice_not_mem_ending _ _ _ _ _)
      | @line session l hheld _ hlive hline hr =>
          rw [hr] at hnotice ⊢
          rcases List.mem_append.mp hnotice with hlead | hentered
          · exact absurd hlead (notice_not_mem_lead _ _ _)
          · cases hread : Passage.ofLine s.world l with
            | blank => simp [hread, Passage.entered] at hentered
            | done t effect => cases effect <;> simp [hread, Passage.entered] at hentered
            | failed e =>
                simp only [hread, Passage.entered, Notice.ofInvalidMove, List.mem_cons,
                  reduceCtorEq, Event.notice.injEq, Notice.invalidMove.injEq, List.not_mem_nil,
                  or_false, false_or] at hentered
                obtain ⟨rfl, rfl, rfl⟩ := hentered
                exact ⟨rfl, session, h.failsAt_of_line hheld hlive hline hread⟩

/-- A run is reported aborted when its session closes with a failed line, and the turtle stays. -/
theorem FromHome.failsAt_of_aborted {s : Simulator Turtle} (h : s.FromHome) {line : Nat}
    (haborted : (s.perform .advance).reply = .step (.finished (.aborted line))) :
    (s.perform .advance).state.world = s.world ∧
      ∃ session e, s.HasFailed line e ∧ s.FailsAt session line e := by
  cases s.advances with
  | idle _ hr => rw [hr] at haborted; cases haborted
  | cancelled _ _ _ hr => rw [hr] at haborted; cases haborted
  | settle _ _ _ hr => rw [hr] at haborted; cases haborted
  | line _ _ _ _ hr => rw [hr] at haborted; cases haborted
  | tail _ _ _ _ hr => rw [hr] at haborted; cases haborted
  | done hheld hphase hr =>
      have hopen := h.session_open _ hheld
      simp [Session.isDone, hphase] at hopen
  | @close session hheld _ hlive hend hr =>
      rw [hr] at haborted ⊢
      cases hfailed : session.failedLine with
      | some failed =>
          rw [hfailed] at haborted
          obtain rfl : failed = line := by simpa [Ending.of] using haborted
          obtain ⟨e, hhas, hfails⟩ := h.failsAt_of_close hheld hlive hend hfailed
          exact ⟨rfl, session, e, hhas, hfails⟩
      | none =>
          -- A run without a failed line is completed or judged.
          rw [hfailed] at haborted
          cases htarget : s.world.target with
          | none =>
              rw [Turtle.ending_of_no_target htarget] at haborted
              cases haborted
          | some target =>
              rw [(Turtle.ending_of_target htarget).1] at haborted
              split at haborted
              · cases haborted
              · cases haborted

end Simulator

/-! ## Simulators and games -/

section Host

variable {M R : Type} [Host M R Turtle]

/-- What holds of a host of a turtle that is in the state `m` after the history `h`. -/
structure Host.KeepsToBoard (g : Guard) (radius : Float) (h : List (Exchange M R Turtle)) (m : M) :
    Prop where
  onBoard : (Host.simulator m).world.OnBoard g radius
  /-- The coordinates are numbers, and finite ones if the bounds of the board are. -/
  isNumber : (Host.simulator m).world.pose.x.isNaN = false ∧
    (Host.simulator m).world.pose.y.isNaN = false
  isFinite : g.IsBounded → (Host.simulator m).world.pose.x.isFinite = true ∧
    (Host.simulator m).world.pose.y.isFinite = true
  movesWhole : (Host.simulator m).world.MovesWhole
  /-- Notice of an invalid move is given when a line asks for it.  The turtle stays. -/
  noticed : ∀ r line x y, .notice (.invalidMove line x y) ∈ (Machine.perform m r).events →
    (Host.simulator (Machine.perform m r).state).world = (Host.simulator m).world ∧
      ∃ session, (Host.simulator m).FailsAt session line ⟨x, y⟩
  /-- When a run is reported aborted, the turtle still is where the lines before the failed one took
  it, and there has been notice of the position that this line asked for. -/
  aborted : ∀ line, (Machine.perform m (Host.plain M .advance)).reply =
      .step (.finished (.aborted line)) →
    (Host.simulator (Machine.perform m (Host.plain M .advance)).state).world =
        (Host.simulator m).world ∧
      ∃ session e, (Host.simulator m).FailsAt session line e ∧
        ∃ x ∈ h, (Host.simulator x.before).token? = (Host.simulator m).token? ∧
          .notice (.invalidMove line e.x e.y) ∈ x.response.events

/-- The session runs from home, and there has been notice of its failed line. -/
structure Host.Told (h : List (Exchange M R Turtle)) (m : M) : Prop where
  fromHome : (Host.simulator m).FromHome
  told : ∀ line e, (Host.simulator m).HasFailed line e →
    ∃ x ∈ h, (Host.simulator x.before).token? = (Host.simulator m).token? ∧
      .notice (.invalidMove line e.x e.y) ∈ x.response.events

theorem Host.fromHome_perform (m : M) (r : R) (h : (Host.simulator m).FromHome) :
    (Host.simulator (Machine.perform m r).state).FromHome := by
  rcases Host.perform_other m r with ⟨q, rfl⟩ | ⟨target, t, hrestart⟩
  · rw [Host.perform_plain, Response.map, Host.simulator_put]
    exact h.perform q
  · rw [(Host.of_restart hrestart).2]
    exact h.cancelled (.inr rfl)

/-- A line that has failed after a request to a host had failed before it, or there is notice of it
now. -/
theorem Host.hasFailed_perform {m : M} {r : R} (h : (Host.simulator m).FromHome) {line : Nat}
    {e : InvalidMove} (hfailed : (Host.simulator (Machine.perform m r).state).HasFailed line e) :
    (Host.simulator (Machine.perform m r).state).token? = (Host.simulator m).token? ∧
      ((Host.simulator m).HasFailed line e ∨
        .notice (.invalidMove line e.x e.y) ∈ (Machine.perform m r).events) := by
  rcases Host.perform_other m r with ⟨q, rfl⟩ | ⟨target, t, hrestart⟩
  · rw [Host.perform_plain, Response.map, Host.simulator_put] at hfailed ⊢
    exact hfailed.perform fun session hheld hlive => (h.course session hheld hlive).failed
  · rw [(Host.of_restart hrestart).2] at hfailed
    exact absurd hfailed (Simulator.not_hasFailed_of_cancel (s := Host.simulator m) rfl)

theorem Host.told {m : M} (hnone : (Host.simulator m).session = none) (rs : List R) :
    Host.Told (history m rs) (after m rs) := by
  refine history_induction (P := Host.Told) ?_ ?_ rs
  · intro h m r htold
    refine ⟨Host.fromHome_perform m r htold.fromHome, ?_⟩
    intro line e hfailed
    obtain ⟨htoken, hbefore | hnow⟩ := Host.hasFailed_perform htold.fromHome hfailed
    · obtain ⟨x, hx, hsame, hnotice⟩ := htold.told line e hbefore
      exact ⟨x, List.mem_append_left _ hx, hsame.trans htoken.symm, hnotice⟩
    · exact ⟨⟨m, r, Machine.perform m r⟩, List.mem_append_right _ (List.mem_singleton_self _),
        htoken.symm, hnow⟩
  · refine ⟨.of_none hnone, ?_⟩
    rintro line e ⟨session, l, hheld, -⟩
    rw [hnone] at hheld
    cases hheld

/-- A host keeps to the board if its turtle is on it, its session runs from home, and there has been
notice of every failure. -/
theorem Host.keepsToBoard {g : Guard} {radius : Float} {h : List (Exchange M R Turtle)} {m : M}
    (honBoard : (Host.simulator m).world.OnBoard g radius) (htold : Host.Told h m) :
    Host.KeepsToBoard g radius h m where
  onBoard := honBoard
  isNumber := honBoard.isNumber
  isFinite := honBoard.isFinite
  movesWhole := Turtle.movesWhole _
  noticed r line x y hnotice := by
    rcases Host.perform_other m r with ⟨q, rfl⟩ | ⟨target, t, hrestart⟩
    · rw [Host.perform_plain, Response.map] at hnotice ⊢
      rw [Host.simulator_put]
      exact htold.fromHome.failsAt_of_notice hnotice
    · rw [(Host.of_restart hrestart).1] at hnotice
      simp [Simulator.restart] at hnotice
  aborted line haborted := by
    rw [Host.perform_plain, Response.map] at haborted ⊢
    rw [Host.simulator_put]
    obtain ⟨hstays, session, e, hhas, hfails⟩ := htold.fromHome.failsAt_of_aborted haborted
    exact ⟨hstays, session, e, hfails, htold.told line e hhas⟩

end Host

/-- The turtle of a simulator is on its board. -/
theorem Simulator.onBoard_after (g : Guard) (radius : Float) (p : Pacing) (rs : List Request) :
    (after (Simulator.new (Turtle.new g radius) p) rs).world.OnBoard g radius :=
  after_induction (P := fun s : Simulator Turtle => s.world.OnBoard g radius)
    (fun _ r h => (Turtle.OnBoard.keeps g radius).perform h r) (.new g radius) rs

/-- No request to a game takes its turtle off the board. -/
theorem Game.onBoard_perform {g : Guard} {radius : Float} (m : Game) (r : GameRequest)
    (h : m.simulator.world.OnBoard g radius) :
    (Machine.perform m r).state.simulator.world.OnBoard g radius := by
  have hkeeps := Turtle.OnBoard.keeps g radius
  refine simulator_perform (P := fun s => s.world.OnBoard g radius) ?_ ?_ m r h
  · exact fun _ r h => hkeeps.perform h r
  · exact fun s target h => (hkeeps.reset s.world h).setTarget (some target)

/-- The turtle of a game is on its board. -/
theorem Game.onBoard_after (c : Config) (rs : List GameRequest) :
    (after (Game.ofConfig c) rs).simulator.world.OnBoard ⟨c.board.gridSize, c.board.epsilon⟩
      c.game.winRadius :=
  after_induction (P := fun m : Game => m.simulator.world.OnBoard _ _) onBoard_perform
    (.new _ c.game.winRadius) rs

/-- **The turtle stays on its board**, in every state that a turtle simulator or a game can reach.
It is where it starts or at a position that the guard accepts, a move is made as a whole or not at
all, and a run that is aborted has given notice of the position refused and left the turtle where
the lines before took it. -/
theorem turtle_stays_on_board :
    (∀ (g : Guard) (radius : Float) (p : Pacing) (rs : List Request),
      Host.KeepsToBoard g radius (history (Simulator.new (Turtle.new g radius) p) rs)
        (after (Simulator.new (Turtle.new g radius) p) rs)) ∧
      ∀ (c : Config) (rs : List GameRequest),
        Host.KeepsToBoard ⟨c.board.gridSize, c.board.epsilon⟩ c.game.winRadius
          (history (Game.ofConfig c) rs) (after (Game.ofConfig c) rs) := by
  constructor
  · intro g radius p rs
    exact Host.keepsToBoard (Simulator.onBoard_after g radius p rs) (Host.told rfl rs)
  · intro c rs
    exact Host.keepsToBoard (Game.onBoard_after c rs) (Host.told rfl rs)

end StepScript
