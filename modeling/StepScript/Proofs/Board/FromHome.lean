import StepScript.Proofs.Board.Moves
import StepScript.Proofs.Run.Stops
set_option autoImplicit false

/-!
# Board: runs from home

A run takes the turtle home before its first line, and no line changes more of the turtle than its
pose.  So at any time of a run the turtle, taken home, is the one that the run began with, and the
lines so far have taken it from there to where it is.

Main statement: `Simulator.FromHome.perform`, by which every session runs its script from home.
-/

namespace StepScript

open Machine

/-! ## Lines -/

namespace Turtle

/-- Commands move and turn the turtle, and nothing else. -/
theorem goHome_of_apply {t t' : Turtle} {c : TurtleCommand} {effect : Effect}
    (happly : t.apply c = .ok (t', effect)) : t'.goHome = t.goHome := by
  rcases apply_cases happly with ⟨x, y, -, -, rfl⟩ | ⟨degrees, -, rfl⟩ | ⟨-, rfl⟩
  · rfl
  · rfl
  · rfl

theorem goHome_worldAfter (t : Turtle) (l : Line) :
    ((Passage.ofLine t l).worldAfter t).goHome = t.goHome := by
  unfold Passage.ofLine
  split
  · rfl
  · cases happly : World.apply t (World.decode l) with
    | error e => rfl
    | ok left =>
        obtain ⟨t', effect⟩ := left
        rw [world_apply_decode] at happly
        exact goHome_of_apply happly

end Turtle

/-! ## Simulators -/

namespace Simulator

/-- The session held runs its script from home. -/
structure FromHome (s : Simulator Turtle) : Prop where
  session_open : s.SessionOpen
  /-- A session that is not cancelled has taken the turtle from home to where it is. -/
  course : ∀ session, s.session = some session → session.cancelled = false →
    session.OnCourse s.world.goHome s.world

theorem FromHome.of_none {s : Simulator Turtle} (hnone : s.session = none) : s.FromHome := by
  constructor
  · intro session hheld
    rw [hnone] at hheld
    cases hheld
  · intro session hheld
    rw [hnone] at hheld
    cases hheld

/-- The session held may be asked to end, or there may be none, whatever the world is. -/
theorem FromHome.cancelled {s s' : Simulator Turtle} (h : s.FromHome)
    (hsession : s'.session = none ∨ s'.session = s.session.map Session.cancel) : s'.FromHome := by
  rcases hsession with hnone | hcancel
  · exact .of_none hnone
  · refine ⟨h.session_open.cancel hcancel, ?_⟩
    intro session hheld hlive
    rw [hcancel, Option.map_eq_some_iff] at hheld
    obtain ⟨before, -, rfl⟩ := hheld
    cases hlive

/-- A session goes on from home as long as it is on course and the turtle keeps all but its pose. -/
theorem FromHome.held {s : Simulator Turtle} {session : Session} {t : Turtle}
    (hopen : session.isDone = false) (hframe : t.goHome = s.world.goHome)
    (hcourse : session.OnCourse s.world.goHome t) :
    ({ s with world := t, session := some session } : Simulator Turtle).FromHome where
  session_open := by
    rintro held ⟨⟩
    exact hopen
  course := by
    rintro held ⟨⟩ -
    rw [hframe]
    exact hcourse

/-- A run request is refused without a trace, or takes the turtle home for a new session. -/
theorem perform_run_turtle (s : Simulator Turtle) (text : String) :
    s.perform (.run text) = ⟨.refused, [], s⟩ ∨
      s.perform (.run text) = ⟨.accepted, [], { s with
        world := s.world.goHome, session := some (.new (Script.parse text) s.pacing)
        accepted := s.accepted + 1 }⟩ := by
  rcases s.perform_run_cases text with hr | ⟨t, hbegun, hr⟩
  · exact .inl hr
  · obtain rfl : s.world.goHome = t := Option.some.inj hbegun
    exact .inr hr

theorem FromHome.perform {s : Simulator Turtle} (h : s.FromHome) (r : Request) :
    (s.perform r).state.FromHome := by
  cases r with
  | run text =>
      rcases s.perform_run_turtle text with hr | hr
      · rw [hr]
        exact h
      · rw [hr]
        exact FromHome.held (s := { s with accepted := s.accepted + 1 }) rfl rfl
          (.new (Script.parse text) s.pacing s.world.goHome)
  | advance =>
      cases s.advances with
      | idle _ hr => rw [hr]; exact h
      | done _ _ hr => rw [hr]; exact h.cancelled (.inl rfl)
      | cancelled _ _ _ hr => rw [hr]; exact h.cancelled (.inl rfl)
      | close _ _ _ _ hr => rw [hr]; exact h.cancelled (.inl rfl)
      | settle hheld hlive hphase hr =>
          rw [hr]
          exact FromHome.held rfl rfl ((h.course _ hheld hlive).settle hphase)
      | tail hheld _ hlive hend hr =>
          rw [hr]
          exact FromHome.held rfl rfl ((h.course _ hheld hlive).past_lines hend rfl)
      | @line session l hheld _ hlive hline hr =>
          rw [hr]
          refine FromHome.held ?_ (s.world.goHome_worldAfter l)
            ((h.course _ hheld hlive).line hline)
          cases hp : (Passage.ofLine s.world l).isFailed with
          | true => rw [Session.afterPassage_of_failed hp]; rfl
          | false => rw [Session.afterPassage_of_not_failed hp]; rfl
  | reset => exact h.cancelled (.inr rfl)
  | setPacing p => exact ⟨h.session_open, h.course⟩
  | cancel t =>
      change (s.cancel t).FromHome
      rw [Simulator.cancel]
      split
      · exact h.cancelled (.inr rfl)
      · exact h

end Simulator

end StepScript
