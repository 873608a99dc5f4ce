import StepScript.Proofs.Board.FromHome
import StepScript.Proofs.Game.Machine
import StepScript.Proofs.Game.Placement
set_option autoImplicit false

/-!
# The game: play sessions

A play session is open while the turtle has a target.  Play opens one; it is closed by a reset, or
judged by the run that ends without an error.

Main statement: `play_session_rules`, the rules of play sessions in every state that a game can reach.
-/

namespace StepScript

open Machine

/-! ## Turtles -/

namespace Turtle

/-- A run that ends with a target to reach is judged, and leaves the turtle as it was at first. -/
theorem ending_of_target {t : Turtle} {target : Square} (htarget : t.target = some target) :
    (Ending.of none t).outcome =
        (if t.pose.distanceTo target < t.winRadius then .won else .lost) ∧
      (Ending.of none t).world = t.reset := by
  have hconclude : World.conclude? t =
      some (if t.pose.distanceTo target < t.winRadius then Verdict.win else .lose, t.reset) := by
    rw [world_conclude?, conclude?, verdict?, htarget]
    rfl
  simp only [Ending.of, hconclude, and_true]
  split
  · rfl
  · rfl

/-- A run that ends without a target is complete, and leaves the turtle where it is. -/
theorem ending_of_no_target {t : Turtle} (htarget : t.target = none) :
    Ending.of none t = ⟨.completed, t, []⟩ := by
  have hconclude : World.conclude? t = none := by
    rw [world_conclude?, conclude?, verdict?, htarget]
    rfl
  simp only [Ending.of, hconclude]

end Turtle

/-! ## What holds at any time -/

/-- Whether a reply reports that a play session was won or lost. -/
def Reply.isJudged : Reply → Bool
  | .step (.finished .won) | .step (.finished .lost) => true
  | _ => false

/-- What holds at any time of a turtle simulator in a game of the configuration `c`. -/
structure Simulator.Fair (c : Config) (s : Simulator Turtle) : Prop extends s.FromHome where
  /-- Reset gives the first turtle back. -/
  reset : s.world.reset = c.turtle
  target : ∀ t, s.world.target = some t → t.IsPlace c.board.gridSize

namespace Simulator

variable {c : Config} {s : Simulator Turtle}

/-- A new simulator is fair. -/
theorem Fair.new (p : Pacing) : Fair c (.new c.turtle p) where
  toFromHome := .of_none rfl
  reset := rfl
  target _ htarget := by cases htarget

theorem Fair.gridSize (h : s.Fair c) : s.world.guard.gridSize = c.board.gridSize :=
  congrArg (fun t : Turtle => t.guard.gridSize) h.reset

theorem Fair.winRadius (h : s.Fair c) : s.world.winRadius = c.game.winRadius :=
  congrArg Turtle.winRadius h.reset

/-- The session held may be asked to end, or there may be none any more. -/
theorem Fair.cancelled (h : s.Fair c) {s' : Simulator Turtle} (hreset : s'.world.reset = c.turtle)
    (htarget : ∀ t, s'.world.target = some t → t.IsPlace c.board.gridSize)
    (hsession : s'.session = none ∨ s'.session = s.session.map Session.cancel) : s'.Fair c :=
  ⟨h.toFromHome.cancelled hsession, hreset, htarget⟩

/-- The next advance ends the run of `session` without an error, while `target` is to be reached. -/
def Concluding (s : Simulator Turtle) (session : Session) (target : Square) : Prop :=
  s.session = some session ∧ session.cancelled = false ∧ session.stop = .close ∧
    session.failedLine = none ∧ s.world.target = some target

/-- **Judgement.**  The turtle is where the lines of the script take it from home; it has won if that
is nearer to the target than the win radius.  The first turtle is left. -/
theorem Fair.judge (h : s.Fair c) {session : Session} {target : Square}
    (hconcluding : s.Concluding session target) :
    let passages := Passage.ofLines s.world.goHome session.script.lines
    Passage.failure? passages = none ∧
      (s.perform .advance).reply =
        .step (.finished
          (if (Passage.lastWorld s.world.goHome passages).pose.distanceTo target <
              c.game.winRadius then .won else .lost)) ∧
      (s.perform .advance).state = { s with world := c.turtle, session := none } := by
  obtain ⟨hheld, hlive, hstop, hunfailed, htarget⟩ := hconcluding
  have hopen := h.session_open session hheld
  obtain ⟨hworld, hfailure⟩ := (h.course session hheld hlive).of_close hopen hstop
  obtain ⟨houtcome, hfirst⟩ := Turtle.ending_of_target htarget
  rcases perform_advance_of_live hheld hopen hlive with ⟨hgoes, -⟩ | ⟨-, events, hperform⟩
  · exact absurd hstop hgoes
  · rw [hunfailed, houtcome, hfirst, h.reset, h.winRadius] at hperform
    refine ⟨hfailure.symm.trans hunfailed, ?_, ?_⟩
    · rw [hperform, ← hworld]
    · rw [hperform]

/-- A session that ends without a judgement is dropped, and nothing else. -/
theorem Fair.dropped (h : s.Fair c) : ({ s with session := none } : Simulator Turtle).Fair c :=
  h.cancelled h.reset h.target (.inl rfl)

/-- A session that pauses has changed nothing of the turtle but its pose. -/
theorem Fair.paused (h : s.Fair c) {session session' : Session} {t : Turtle}
    (hheld : s.session = some session) (hlive : session.cancelled = false)
    (hopen : session'.isDone = false) (hframe : t.goHome = s.world.goHome)
    (hcourse : ∀ start, session.OnCourse start s.world → session'.OnCourse start t) :
    ({ s with world := t, session := some session' } : Simulator Turtle).Fair c where
  toFromHome := .held hopen hframe (hcourse _ (h.course session hheld hlive))
  reset := (congrArg (Turtle.setTarget · none) hframe).trans h.reset
  target target htarget := h.target target ((congrArg Turtle.target hframe).symm.trans htarget)

/-- Without a judgement, an advance keeps all of the turtle but its pose. -/
theorem Fair.advance_cases (h : s.Fair c) :
    (∃ session target, s.Concluding session target) ∨
      ((s.perform .advance).reply.isJudged = false ∧
        ((s.perform .advance).reply = .step (.finished .completed) → s.world.target = none) ∧
        (s.perform .advance).state.world.goHome = s.world.goHome ∧
        (s.perform .advance).state.Fair c) := by
  cases hheld : s.session with
  | none =>
      rw [perform_advance_of_none hheld]
      exact .inr ⟨rfl, nofun, rfl, h⟩
  | some session =>
      have hopen := h.session_open session hheld
      cases hlive : session.cancelled with
      | true =>
          rw [perform_advance_of_cancelled hheld hopen hlive]
          exact .inr ⟨rfl, nofun, rfl, h.dropped⟩
      | false =>
          rcases perform_advance_of_live hheld hopen hlive with
            ⟨-, d, events, session', t, hperform, hopen', -, hline, hcourse⟩ |
            ⟨hstop, events, hperform⟩
          · have hframe : t.goHome = s.world.goHome := by
              rcases hline with rfl | ⟨l, rfl⟩
              · rfl
              · exact s.world.goHome_worldAfter l
            rw [hperform]
            exact .inr ⟨rfl, nofun, hframe, h.paused hheld hlive hopen' hframe hcourse⟩
          · cases hfailed : session.failedLine with
            | some line =>
                rw [hfailed] at hperform
                rw [hperform]
                exact .inr ⟨rfl, nofun, rfl, h.dropped⟩
            | none =>
                cases htarget : s.world.target with
                | some target =>
                    exact .inl ⟨session, target, hheld, hlive, hstop, hfailed, htarget⟩
                | none =>
                    rw [hfailed, Turtle.ending_of_no_target htarget] at hperform
                    rw [hperform]
                    exact .inr ⟨rfl, fun _ => rfl, rfl, h.dropped⟩

/-- A session that was judged leaves the first turtle. -/
theorem Fair.judged (h : s.Fair c) :
    ({ s with world := c.turtle, session := none } : Simulator Turtle).Fair c :=
  h.cancelled rfl (fun _ htarget => by cases htarget) (.inl rfl)

/-- A reply to a concluding advance is a judgement. -/
theorem Fair.isJudged_of_concluding (h : s.Fair c) {session : Session} {target : Square}
    (hconcluding : s.Concluding session target) :
    (s.perform .advance).reply.isJudged = true := by
  rw [(h.judge hconcluding).2.1]
  split
  · rfl
  · rfl

/-- No request makes a simulator unfair. -/
theorem Fair.perform (h : s.Fair c) (r : Request) : (s.perform r).state.Fair c := by
  cases r with
  | run text =>
      have hhome := h.toFromHome.perform (.run text)
      rcases s.perform_run_turtle text with hr | hr
      · rw [hr]
        exact h
      · rw [hr] at hhome ⊢
        exact ⟨hhome, h.reset, h.target⟩
  | advance =>
      rcases h.advance_cases with ⟨session, target, hconcluding⟩ | ⟨-, -, -, hfair⟩
      · rw [(h.judge hconcluding).2.2]
        exact h.judged
      · exact hfair
  | reset => exact h.cancelled h.reset (fun _ htarget => by cases htarget) (.inr rfl)
  | setPacing p => exact ⟨h.toFromHome.perform (.setPacing p), h.reset, h.target⟩
  | cancel t =>
      change (s.cancel t).Fair c
      rw [Simulator.cancel]
      split
      · exact h.cancelled h.reset h.target (.inr rfl)
      · exact h

/-- A restart with a target on the board is fair. -/
theorem Fair.restart (h : s.Fair c) {target : Square} (hplace : target.IsPlace c.board.gridSize) :
    (s.restart target (s.world.reset.setTarget (some target))).state.Fair c := by
  refine h.cancelled h.reset ?_ (.inr rfl)
  rintro t ⟨⟩
  exact hplace

/-- The target stays, but for a reset and a judgement. -/
theorem Fair.target_perform (h : s.Fair c) (r : Request) :
    (s.perform r).state.world.target =
      if r = .reset ∨ (s.perform r).reply.isJudged = true then none else s.world.target := by
  cases r with
  | run text =>
      rcases s.perform_run_turtle text with hr | hr
      · rw [hr]
        rfl
      · rw [hr]
        rfl
  | advance =>
      rcases h.advance_cases with ⟨session, target, hconcluding⟩ | ⟨hreply, -, hframe, -⟩
      · rw [if_pos (.inr (h.isJudged_of_concluding hconcluding)), (h.judge hconcluding).2.2]
        rfl
      · have htarget := congrArg Turtle.target hframe
        rw [if_neg (by simp [hreply])]
        exact htarget
  | reset => rfl
  | setPacing p => rfl
  | cancel t =>
      change (s.cancel t).world.target = _
      rw [Simulator.cancel]
      split
      · rfl
      · rfl

/-- Won or lost is what a concluding advance reports, and nothing else. -/
theorem Fair.isJudged_iff (h : s.Fair c) (r : Request) :
    (s.perform r).reply.isJudged = true ↔
      r = .advance ∧ ∃ session target, s.Concluding session target := by
  cases r with
  | run text =>
      rcases s.perform_run_turtle text with hr | hr
      · simp [hr, Reply.isJudged]
      · simp [hr, Reply.isJudged]
  | advance =>
      rcases h.advance_cases with hconcludes | ⟨hreply, -, -, -⟩
      · obtain ⟨session, target, hconcluding⟩ := hconcludes
        exact iff_of_true (h.isJudged_of_concluding hconcluding)
          ⟨rfl, session, target, hconcluding⟩
      · refine iff_of_false (by simp [hreply]) ?_
        rintro ⟨-, session, target, hconcluding⟩
        rw [h.isJudged_of_concluding hconcluding] at hreply
        cases hreply
  | reset => exact iff_of_false nofun nofun
  | setPacing p => exact iff_of_false nofun nofun
  | cancel t => exact iff_of_false nofun nofun

end Simulator

/-! ## Games -/

namespace Game

/-- The target of the play session, if one is open. -/
def target (g : Game) : Option Square := g.simulator.world.target

/-- The rules of play sessions, for a game of the configuration `c` in the state `g`. -/
structure PlayRules (c : Config) (g : Game) : Prop where
  /-- A target is a cell of the board and not the start cell. -/
  target_isPlace : ∀ t, g.target = some t →
    t.x < c.board.gridSize ∧ t.y < c.board.gridSize ∧ t ≠ .origin
  /-- Play opens a session, whether one is open or not. -/
  play : ∃ t, (Machine.perform g .play).reply = .placed t ∧
    (Machine.perform g .play).state.target = some t
  /-- Any other request keeps the target, but for a reset and a judgement. -/
  plain : ∀ r, (Machine.perform g (.plain r)).state.target =
    if r = .reset ∨ (Machine.perform g (.plain r)).reply.isJudged = true then none else g.target
  /-- A judgement is passed by the advance that ends a run without an error while there is a
  target. -/
  judged_iff : ∀ r, (Machine.perform g r).reply.isJudged = true ↔
    r = .plain .advance ∧ ∃ session t, g.simulator.Concluding session t
  /-- No line of the script has failed then, and the judgement is on the pose after the last of them.
  It leaves no target and the turtle at home. -/
  judgement : ∀ session t, g.simulator.Concluding session t →
    let home := g.simulator.world.goHome
    let passages := Passage.ofLines home session.script.lines
    Passage.failure? passages = none ∧
      (Machine.perform g (.plain .advance)).reply =
        .step (.finished (if (Passage.lastWorld home passages).pose.distanceTo t <
          c.game.winRadius then .won else .lost)) ∧
      (Machine.perform g (.plain .advance)).state.target = none ∧
      (Machine.perform g (.plain .advance)).state.simulator.world.pose = .home
  /-- A run is merely completed only when there is no target. -/
  completed : (Machine.perform g (.plain .advance)).reply = .step (.finished .completed) →
    g.target = none

variable {c : Config} {g : Game}

theorem play_target (g : Game) :
    (Machine.perform g .play).reply = .placed g.nextTarget ∧
      (Machine.perform g .play).state.target = some g.nextTarget := by
  change (g.perform .play).reply = _ ∧ (g.perform .play).state.target = _
  rw [perform_play]
  exact ⟨rfl, rfl⟩

theorem perform_plain_eq (g : Game) (r : Request) :
    Machine.perform g (.plain r) = (g.simulator.perform r).map g.withSimulator := g.perform_plain r

/-- No request makes the simulator of a game unfair. -/
theorem fair_perform (hsize : 2 ≤ c.board.gridSize) (g : Game) (r : GameRequest)
    (h : g.simulator.Fair c) : (Machine.perform g r).state.simulator.Fair c := by
  cases r with
  | plain r =>
      rw [perform_plain_eq]
      exact h.perform r
  | play =>
      have hplace : g.nextTarget.IsPlace c.board.gridSize := by
        rw [nextTarget, h.gridSize]
        exact drawTarget_isPlace hsize g.generator
      change (g.perform .play).state.simulator.Fair c
      rw [perform_play]
      exact h.restart hplace

/-- A game with a fair simulator keeps to the rules. -/
theorem playRules (h : g.simulator.Fair c) : PlayRules c g where
  target_isPlace := h.target
  play := ⟨g.nextTarget, g.play_target⟩
  plain r := by
    rw [perform_plain_eq]
    exact h.target_perform r
  judged_iff r := by
    cases r with
    | play =>
        rw [g.play_target.1]
        exact iff_of_false nofun nofun
    | plain r =>
        rw [perform_plain_eq, GameRequest.plain.injEq]
        exact h.isJudged_iff r
  judgement session t hconcluding := by
    obtain ⟨hunfailed, hreply, hstate⟩ := h.judge hconcluding
    rw [perform_plain_eq]
    refine ⟨hunfailed, hreply, ?_, ?_⟩
    · exact congrArg (fun s => s.world.target) hstate
    · exact congrArg (fun s => s.world.pose) hstate
  completed hreply := by
    rw [perform_plain_eq] at hreply
    rcases h.advance_cases with ⟨session, t, hconcluding⟩ | ⟨-, hcompleted, -, -⟩
    · have hjudged := h.isJudged_of_concluding hconcluding
      rw [show (g.simulator.perform .advance).reply = .step (.finished .completed) from hreply]
        at hjudged
      cases hjudged
    · exact hcompleted hreply

/-- Whether an exchange closed a play session without a judgement. -/
def abandons (e : Exchange Game GameRequest Turtle) : Bool :=
  (e.request = .play || e.request = .plain .reset) && e.before.target.isSome

/-- Every play session is judged, or abandoned, or open still. -/
theorem countP_play (hsize : 2 ≤ c.board.gridSize) (h : g.simulator.Fair c)
    (rs : List GameRequest) :
    (history g rs).countP (·.request = .play) + (if g.target.isSome then 1 else 0) =
      (history g rs).countP (·.response.reply.isJudged) + (history g rs).countP abandons +
        if (after g rs).target.isSome then 1 else 0 := by
  refine countP_balance (P := fun g : Game => g.simulator.Fair c) _ _ _
    (fun g : Game => if g.target.isSome then 1 else 0) (fair_perform hsize) ?_ h rs
  intro g r hfair
  have hrules := playRules hfair
  cases r with
  | play =>
      obtain ⟨hreply, htarget⟩ := g.play_target
      simp [abandons, hreply, htarget, Reply.isJudged, Nat.add_comm]
  | plain r =>
      have hleft := hrules.plain r
      by_cases hreset : r = .reset
      · subst hreset
        have hreply : (Machine.perform g (.plain .reset)).reply.isJudged = false := rfl
        simp [abandons, hreply, hleft]
      · cases hreply : (Machine.perform g (.plain r)).reply.isJudged with
        | true =>
            obtain ⟨-, session, t, hconcluding⟩ := (hrules.judged_iff (.plain r)).mp hreply
            have hopen : g.target = some t := hconcluding.2.2.2.2
            simp [abandons, hreset, hreply, hleft, hopen]
        | false => simp [abandons, hreset, hreply, hleft]

/-- **Play sessions.**  In every state that a game can reach it keeps to the rules.  Whatever follows
without play, at most one run is judged, none if no play session is open, and afterwards no play
session is open if one was. -/
theorem play_session_rules {c : Config} (hsize : 2 ≤ c.board.gridSize) (rs : List GameRequest) :
    PlayRules c (after (ofConfig c) rs) ∧
      ∀ later : List GameRequest, .play ∉ later →
        (history (after (ofConfig c) rs) later).countP (·.response.reply.isJudged) +
            (if (after (after (ofConfig c) rs) later).target.isSome then 1 else 0) ≤
          if (after (ofConfig c) rs).target.isSome then 1 else 0 := by
  have hfair : (after (ofConfig c) rs).simulator.Fair c :=
    after_induction (P := fun g : Game => g.simulator.Fair c) (fair_perform hsize) (.new _) rs
  refine ⟨playRules hfair, ?_⟩
  intro later hplay
  have hsum := countP_play hsize hfair later
  have hnone : (history (after (ofConfig c) rs) later).countP (·.request = .play) = 0 := by
    rw [List.countP_eq_zero]
    intro e he
    have hrequest := List.mem_map_of_mem (f := Exchange.request) he
    rw [map_request_history] at hrequest
    have hother : e.request ≠ .play := ne_of_mem_of_not_mem hrequest hplay
    simpa using hother
  omega

/-- With the target four cells ahead, a run that leaves the board does not close the play session;
the next one wins it, and no play session is open then. -/
theorem play_session_rules_second_run :
    let c := { Config.standard with seed := 22 }
    let g := after (ofConfig c) [.play]
    let later := .plain (.run "ANDA 9") :: List.replicate 5 (.plain .advance) ++
      .plain (.run "ANDA 4") :: List.replicate 5 (.plain .advance)
    (2 ≤ c.board.gridSize ∧ .play ∉ later) ∧
      PlayRules c g ∧ g.target = some ⟨4, 0⟩ ∧
      .step (.finished (.aborted 0)) ∈ (history g later).map (·.response.reply) ∧
      .step (.finished .won) ∈ (history g later).map (·.response.reply) ∧
      (history g later).countP (·.response.reply.isJudged) +
        (if (after g later).target.isSome then 1 else 0) ≤ 1 := by
  intro c g later
  have hsize : 2 ≤ c.board.gridSize := by decide
  have hplay : .play ∉ later := by simp [later]
  have htarget : g.target = some ⟨4, 0⟩ := by decide +kernel
  obtain ⟨hrules, hlater⟩ := play_session_rules hsize [.play]
  have hbound := hlater later hplay
  rw [show (after (ofConfig c) [.play]).target = some ⟨4, 0⟩ from htarget] at hbound
  exact ⟨⟨hsize, hplay⟩, hrules, htarget, by decide +kernel, by decide +kernel, hbound⟩

end Game

end StepScript
