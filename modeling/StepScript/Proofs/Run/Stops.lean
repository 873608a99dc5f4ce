import StepScript.Proofs.Run.Bookkeeping
import StepScript.Proofs.Run.Progress
set_option autoImplicit false

/-!
# Runs: what an advance of a simulator does, stop by stop

An advance finds no session, drops one that is over, or takes a live one to its next stop.  Each of
these is one case of `Simulator.Advances`, with all that is replied, shown and left, so an invariant
of a simulator is a case analysis.

Main statements: `Simulator.advances`, the inversion of an advance; `World.Keeps.perform`, by which
what everything that writes to a world keeps is true of it at any time; `Simulator.HasFailed.perform`,
by which no line fails without a notice.
-/

namespace StepScript

open Machine

/-! ## Advances -/

/-- All that an advance of a simulator can be. -/
inductive Simulator.Advances {W : Type} [World W] (s : Simulator W) (r : Response (Simulator W) W) :
    Prop where
  | idle (hnone : s.session = none) (hr : r = ⟨.step .idle, [], s⟩)
  | done {session : Session} {o : Outcome} (hheld : s.session = some session)
      (hphase : session.phase = .done o)
      (hr : r = ⟨.step (.finished o), [], { s with session := none }⟩)
  | cancelled {session : Session} (hheld : s.session = some session)
      (hopen : session.isDone = false) (hcancelled : session.cancelled = true)
      (hr : r = ⟨.step (.finished .cancelled), [], { s with session := none }⟩)
  | settle {session : Session} (hheld : s.session = some session)
      (hlive : session.cancelled = false) (hphase : session.phase = .start)
      (hr : r = ⟨.step (.pause (.ofMillis session.pacing.settle)), [.render s.world],
        { s with session := some { session with phase := .enter 0 } }⟩)
  | line {session : Session} {l : Line} (hheld : s.session = some session)
      (hopen : session.isDone = false) (hlive : session.cancelled = false)
      (hline : session.script.line? session.position = some l)
      (hr : r = ⟨.step (.pause ((Passage.ofLine s.world l).pause session.pacing)),
        session.lead s.world ++ (Passage.ofLine s.world l).entered session.position,
        { s with
          world := (Passage.ofLine s.world l).worldAfter s.world
          session := some (session.afterPassage session.position (Passage.ofLine s.world l)) }⟩)
  | tail {session : Session} (hheld : s.session = some session)
      (hopen : session.isDone = false) (hlive : session.cancelled = false)
      (hend : session.remaining = [])
      (hr : r = ⟨.step (.pause (.ofMillis session.pacing.tail)), session.lead s.world,
        { s with session := some { session with phase := .conclude } }⟩)
  | close {session : Session} (hheld : s.session = some session)
      (hopen : session.isDone = false) (hlive : session.cancelled = false)
      (hend : session.remaining = [])
      (hr : r = ⟨.step (.finished (Ending.of session.failedLine s.world).outcome),
        session.lead s.world ++ (Ending.of session.failedLine s.world).events,
        { s with world := (Ending.of session.failedLine s.world).world, session := none }⟩)

/-- A live session turns to its next stop; what it shows on its way comes first. -/
theorem Session.advance_recorded {W : Type} [World W] {session : Session}
    (hopen : session.isDone = false) (hlive : session.cancelled = false) (w : W) :
    session.advance w (Recording.empty : Recording W) =
      session.stopAt w (⟨session.lead w⟩ : Recording W) session.stop := by
  rw [session.advance_of_live hopen hlive, Recording.replay_eq]
  rfl

/-- **Inversion of an advance.** -/
theorem Simulator.advances {W : Type} [World W] (s : Simulator W) :
    s.Advances (s.perform .advance) := by
  cases hheld : s.session with
  | none => exact .idle hheld (perform_advance_of_none hheld)
  | some session =>
      cases hdone : session.isDone with
      | true =>
          obtain ⟨o, hphase⟩ := Session.exists_of_isDone hdone
          exact .done hheld hphase
            (perform_advance_of_finished hheld (Session.advance_of_done hphase s.world _))
      | false =>
          cases hlive : session.cancelled with
          | true =>
              exact .cancelled hheld hdone hlive (perform_advance_of_cancelled hheld hdone hlive)
          | false =>
              have hturn := Session.advance_recorded hdone hlive s.world
              rcases Session.stop_cases hdone with ⟨hstop, hphase⟩ | ⟨l, hstop, hline⟩ |
                ⟨hstop | hstop, hend⟩
              · rw [hstop, Session.stopAt, Session.lead, hphase] at hturn
                exact .settle hheld hlive hphase (perform_advance_of_pause hheld hturn)
              · rw [hstop, Session.stopAt, Recording.replay_eq] at hturn
                exact .line hheld hdone hlive hline (perform_advance_of_pause hheld hturn)
              · rw [hstop, Session.stopAt] at hturn
                exact .tail hheld hdone hlive hend (perform_advance_of_pause hheld hturn)
              · rw [hstop, Session.stopAt, Recording.replay_eq] at hturn
                exact .close hheld hdone hlive hend (perform_advance_of_finished hheld hturn)

/-! ## What is true of the world -/

/-- What everything that writes to a world keeps. -/
structure World.Keeps {W : Type} [World W] (P : W → Prop) : Prop where
  begin : ∀ w script w', World.begin? w script = some w' → P w → P w'
  apply : ∀ w c w' effect, World.apply w c = .ok (w', effect) → P w → P w'
  conclude : ∀ w verdict w', World.conclude? w = some (verdict, w') → P w → P w'
  reset : ∀ w, P w → P (World.reset w)

namespace World.Keeps

variable {W : Type} [World W] {P : W → Prop} (hkeeps : World.Keeps P)
include hkeeps

theorem worldAfter {w : W} (h : P w) (l : Line) : P ((Passage.ofLine w l).worldAfter w) := by
  unfold Passage.ofLine
  split
  · exact h
  · cases happly : World.apply w (World.decode l) with
    | error e => exact h
    | ok left => exact hkeeps.apply w _ left.1 left.2 happly h

theorem ending {w : W} (h : P w) (failure? : Option Nat) : P (Ending.of failure? w).world := by
  unfold Ending.of
  cases failure? with
  | some line => exact h
  | none =>
      cases hjudged : World.conclude? w with
      | none => exact h
      | some judged => exact hkeeps.conclude w judged.1 judged.2 hjudged h

/-- No request to a simulator breaks it. -/
theorem perform {s : Simulator W} (h : P s.world) (r : Request) : P (s.perform r).state.world := by
  cases r with
  | run text =>
      rcases s.perform_run_cases text with hr | ⟨w, hbegun, hr⟩
      · rw [hr]
        exact h
      · rw [hr]
        exact hkeeps.begin s.world _ w hbegun h
  | advance =>
      cases s.advances with
      | idle _ hr => rw [hr]; exact h
      | done _ _ hr => rw [hr]; exact h
      | cancelled _ _ _ hr => rw [hr]; exact h
      | settle _ _ _ hr => rw [hr]; exact h
      | line _ _ _ _ hr => rw [hr]; exact hkeeps.worldAfter h _
      | tail _ _ _ _ hr => rw [hr]; exact h
      | close _ _ _ _ hr => rw [hr]; exact hkeeps.ending h _
  | reset => exact hkeeps.reset s.world h
  | setPacing p => exact h
  | cancel t =>
      change P (s.cancel t).world
      rw [Simulator.cancel]
      split
      · exact h
      · exact h

end World.Keeps

/-! ## Failed lines -/

namespace Simulator

variable {W : Type}

theorem token?_eq_of_session {s s' : Simulator W} (hsession : s'.session.isSome = s.session.isSome)
    (hnumber : s'.accepted = s.accepted) : s'.token? = s.token? := by
  unfold token?
  rw [hnumber]
  cases hs : s.session <;> cases hs' : s'.session <;> simp_all

variable [World W]

/-- The session held is not cancelled and has this failed line, which still asks for this invalid
move. -/
def HasFailed (s : Simulator W) (line : Nat) (e : InvalidMove) : Prop :=
  ∃ session l, s.session = some session ∧ session.cancelled = false ∧
    session.failedLine = some line ∧ session.script.lines[line]? = some l ∧
      Passage.ofLine s.world l = .failed e

theorem not_hasFailed_of_cancel {s s' : Simulator W} {line : Nat} {e : InvalidMove}
    (hsession : s'.session = s.session.map Session.cancel) : ¬ s'.HasFailed line e := by
  rintro ⟨session, l, hheld, hlive, -⟩
  rw [hsession, Option.map_eq_some_iff] at hheld
  obtain ⟨before, -, rfl⟩ := hheld
  cases hlive

/-- A session that has failed after a line has failed at this line, and its notice is among the events
of the line. -/
theorem HasFailed.of_line {s s' : Simulator W} {session : Session} {l : Line} {line : Nat}
    {e : InvalidMove} (hline : session.script.line? session.position = some l)
    (hlast : session.failedLine = none ∨ session.remaining = [])
    (hsession : s'.session =
      some (session.afterPassage session.position (Passage.ofLine s.world l)))
    (hworld : s'.world = (Passage.ofLine s.world l).worldAfter s.world)
    (hfailed : s'.HasFailed line e) :
    Event.notice (.invalidMove line e.x e.y) ∈
      (Passage.ofLine s.world l).entered session.position := by
  obtain ⟨held, l', hheld', -, hfailedLine, hl', hread⟩ := hfailed
  rw [hsession] at hheld'
  obtain rfl := Option.some.inj hheld'
  have hunfailed : session.failedLine = none := by
    rcases hlast with hnone | hnil
    · exact hnone
    · rw [Session.remaining_eq_cons hline] at hnil
      cases hnil
  cases hp : Passage.ofLine s.world l with
  | failed refused =>
      rw [hp] at hfailedLine hl'
      obtain rfl : session.position = line := Option.some.inj hfailedLine
      obtain rfl : l = l' := Option.some.inj (hline.symm.trans hl')
      have hsame : s'.world = s.world := by rw [hworld, hp]; rfl
      rw [hsame, hp] at hread
      obtain rfl := Passage.failed.inj hread
      simp [Passage.entered, Notice.ofInvalidMove]
  | blank =>
      rw [hp] at hfailedLine
      exact absurd (hfailedLine.symm.trans hunfailed) (Option.some_ne_none line)
  | done w effect =>
      rw [hp] at hfailedLine
      exact absurd (hfailedLine.symm.trans hunfailed) (Option.some_ne_none line)

/-- A line that has failed after a request had failed before it, or there is notice of it now. -/
theorem HasFailed.perform {s : Simulator W} {r : Request} {line : Nat} {e : InvalidMove}
    (hlast : ∀ session, s.session = some session → session.cancelled = false →
      session.failedLine = none ∨ session.remaining = [])
    (hfailed : (s.perform r).state.HasFailed line e) :
    (s.perform r).state.token? = s.token? ∧
      (s.HasFailed line e ∨ .notice (.invalidMove line e.x e.y) ∈ (s.perform r).events) := by
  cases r with
  | run text =>
      rcases s.perform_run_cases text with hr | ⟨w, -, hr⟩
      · rw [hr] at hfailed ⊢
        exact ⟨rfl, .inl hfailed⟩
      · -- A session that has just started has no failed line.
        rw [hr] at hfailed
        obtain ⟨session, l, ⟨⟩, -, hline, -⟩ := hfailed
        cases hline
  | advance =>
      cases s.advances with
      | idle _ hr => rw [hr] at hfailed ⊢; exact ⟨rfl, .inl hfailed⟩
      | done _ _ hr => rw [hr] at hfailed; obtain ⟨_, _, ⟨⟩, _⟩ := hfailed
      | cancelled _ _ _ hr => rw [hr] at hfailed; obtain ⟨_, _, ⟨⟩, _⟩ := hfailed
      | close _ _ _ _ hr => rw [hr] at hfailed; obtain ⟨_, _, ⟨⟩, _⟩ := hfailed
      | settle hheld _ _ hr =>
          rw [hr] at hfailed ⊢
          obtain ⟨_, l, ⟨⟩, hrest⟩ := hfailed
          exact ⟨token?_eq_of_session (by rw [hheld]; rfl) rfl, .inl ⟨_, l, hheld, hrest⟩⟩
      | tail hheld _ _ _ hr =>
          rw [hr] at hfailed ⊢
          obtain ⟨_, l, ⟨⟩, hrest⟩ := hfailed
          exact ⟨token?_eq_of_session (by rw [hheld]; rfl) rfl, .inl ⟨_, l, hheld, hrest⟩⟩
      | line hheld _ hlive hline hr =>
          rw [hr] at hfailed ⊢
          have hnoticed := hfailed.of_line hline (hlast _ hheld hlive) rfl rfl
          exact ⟨token?_eq_of_session (by rw [hheld]; rfl) rfl,
            .inr (List.mem_append_right _ hnoticed)⟩
  | reset => exact absurd hfailed (not_hasFailed_of_cancel (s := s) rfl)
  | setPacing p => exact ⟨rfl, .inl hfailed⟩
  | cancel t =>
      change (s.cancel t).HasFailed line e at hfailed
      change (s.cancel t).token? = s.token? ∧ _
      rw [Simulator.cancel] at hfailed ⊢
      split at hfailed
      · exact absurd hfailed (not_hasFailed_of_cancel (s := s) rfl)
      · next ht =>
          rw [if_neg ht]
          exact ⟨rfl, .inl hfailed⟩

end Simulator

end StepScript
