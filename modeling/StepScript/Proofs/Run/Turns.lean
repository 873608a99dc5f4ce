import StepScript.Proofs.Run.Transcript
import StepScript.Run.Session
import StepScript.View.Recording
set_option autoImplicit false

/-!
# Runs: what one advance does

One equation for each phase of a session, in terms of passages and endings, and from them one for
all phases: an advance goes on to the next stop, which is a pause or the end.  Past this module a
session's advance need not be unfolded.

Main statements: `advance_of_live`, what an advance does; `advance_onto`, by which a view takes in
the events of a turn and has no part in the rest of it; `regular_advance`, the shapes of a turn.
-/

namespace StepScript

/-- What a recording holds after several events. -/
theorem Recording.replay_eq {W : Type} (r : Recording W) (es : List (Event W)) :
    View.replay r es = ⟨r.events ++ es⟩ := by
  have hevents := Recording.events_replay r es
  cases hr : View.replay r es with
  | mk events =>
      rw [hr] at hevents
      rw [← hevents]

namespace Session

theorem exists_of_isDone {s : Session} (h : s.isDone = true) : ∃ o, s.phase = .done o := by
  unfold isDone at h
  cases hphase : s.phase with
  | done o => exact ⟨o, rfl⟩
  | _ => simp [hphase] at h

variable {W V : Type}

/-- A session as a line leaves it: after a failed line the tail is next. -/
def afterPassage (s : Session) (index : Nat) (p : Passage W) : Session :=
  { s with
    executed := s.executed + 1
    phase := if p.isFailed then .tail else .leave index
    failedLine := if p.isFailed then some index else s.failedLine }

theorem afterPassage_of_failed {p : Passage W} (hp : p.isFailed = true) (s : Session)
    (index : Nat) :
    s.afterPassage index p =
      { s with executed := s.executed + 1, phase := .tail, failedLine := some index } := by
  simp [afterPassage, hp]

theorem afterPassage_of_not_failed {p : Passage W} (hp : p.isFailed = false) (s : Session)
    (index : Nat) :
    s.afterPassage index p = { s with executed := s.executed + 1, phase := .leave index } := by
  simp [afterPassage, hp]

variable [World W] [View V W]

/-! ## Phases -/

/-- A session that has ended reports its outcome again and does nothing. -/
theorem advance_of_done {s : Session} {o : Outcome} (hphase : s.phase = .done o) (w : W) (v : V) :
    s.advance w v = ⟨.finished o, s, w, v⟩ := by
  simp [advance, hphase]

/-- A cancelled session ends at once, whatever its phase. -/
theorem advance_of_cancelled {s : Session} (hopen : s.isDone = false) (hcancelled : s.cancelled = true)
    (w : W) (v : V) : s.advance w v = s.finish .cancelled w v := by
  unfold isDone at hopen
  unfold advance
  cases hphase : s.phase with
  | done o => simp [hphase] at hopen
  | _ => simp [hcancelled]

theorem advance_of_start {s : Session} (hphase : s.phase = .start) (hlive : s.cancelled = false)
    (w : W) (v : V) : s.advance w v = s.starting w v := by
  simp [advance, hphase, hlive]

theorem advance_of_enter {s : Session} {index : Nat} (hphase : s.phase = .enter index)
    (hlive : s.cancelled = false) (w : W) (v : V) : s.advance w v = s.entering index w v := by
  simp [advance, hphase, hlive]

theorem advance_of_leave {s : Session} {index : Nat} (hphase : s.phase = .leave index)
    (hlive : s.cancelled = false) (w : W) (v : V) :
    s.advance w v =
      s.entering (index + 1) w (View.observe v (Event.active (W := W) index false)) := by
  simp [advance, hphase, hlive]

theorem advance_of_tail {s : Session} (hphase : s.phase = .tail) (hlive : s.cancelled = false)
    (w : W) (v : V) : s.advance w v = s.tailing w v := by
  simp [advance, hphase, hlive]

theorem advance_of_conclude {s : Session} (hphase : s.phase = .conclude)
    (hlive : s.cancelled = false) (w : W) (v : V) : s.advance w v = s.concluding w v := by
  simp [advance, hphase, hlive]

/-- The end of the script: the failed line, or the judgement of the world. -/
theorem concluding_eq (s : Session) (w : W) (v : V) :
    s.concluding w v =
      ⟨.finished (Ending.of s.failedLine w).outcome,
        { s with phase := .done (Ending.of s.failedLine w).outcome },
        (Ending.of s.failedLine w).world, View.replay v (Ending.of s.failedLine w).events⟩ := by
  unfold concluding Ending.of finish
  rw [World.close_eq]
  cases s.failedLine with
  | some line => rfl
  | none =>
      cases World.conclude? w with
      | none => rfl
      | some judged => rfl

/-- A tail that takes no time is no pause. -/
theorem tailing_of_isZero {s : Session}
    (hzero : (Duration.ofMillis s.pacing.tail).isZero = true) (w : W) (v : V) :
    s.tailing w v = s.concluding w v := by
  simp [tailing, hzero]

theorem tailing_of_not_isZero {s : Session}
    (hzero : (Duration.ofMillis s.pacing.tail).isZero = false) (w : W) (v : V) :
    s.tailing w v = ⟨.pause (.ofMillis s.pacing.tail), { s with phase := .conclude }, w, v⟩ := by
  simp [tailing, hzero]

/-- Settling that takes no time is no pause. -/
theorem starting_of_isZero {s : Session}
    (hzero : (Duration.ofMillis s.pacing.settle).isZero = true) (w : W) (v : V) :
    s.starting w v = s.entering 0 w (View.observe v (Event.render w)) := by
  simp [starting, hzero]

theorem starting_of_not_isZero {s : Session}
    (hzero : (Duration.ofMillis s.pacing.settle).isZero = false) (w : W) (v : V) :
    s.starting w v =
      ⟨.pause (.ofMillis s.pacing.settle), { s with phase := .enter 0 }, w,
        View.observe v (Event.render w)⟩ := by
  simp [starting, hzero]

theorem entering_of_end {s : Session} {index : Nat} (hline : s.script.line? index = none)
    (w : W) (v : V) : s.entering index w v = s.tailing w v := by
  simp [entering, hline]

/-- A line runs and then pauses. -/
theorem entering_of_line {s : Session} {index : Nat} {l : Line}
    (hline : s.script.line? index = some l) (w : W) (v : V) :
    s.entering index w v =
      ⟨.pause ((Passage.ofLine w l).pause s.pacing), s.afterPassage index (Passage.ofLine w l),
        (Passage.ofLine w l).worldAfter w,
        View.replay v ((Passage.ofLine w l).entered index)⟩ := by
  unfold entering Passage.ofLine
  rw [hline]
  cases hblank : l.isBlank with
  | true => simp [hblank, Passage.pause, Passage.worldAfter, Passage.entered, afterPassage,
      Passage.isFailed]
  | false =>
      simp only [hblank, execute, World.act_eq, Bool.false_eq_true, if_false]
      cases happly : World.apply w (World.decode l) with
      | error e => rfl
      | ok left =>
          obtain ⟨w', effect⟩ := left
          cases effect <;> rfl

/-! ## Where an advance stops -/

end Session

/-- Where an advance stops: at a pause, or at the end of the session. -/
inductive Stop where
  | settle
  | line (index : Nat) (l : Line)
  | tail
  | close

namespace Session

/-- Where the tail stops. -/
def stopAfterLines (s : Session) : Stop :=
  if (Duration.ofMillis s.pacing.tail).isZero then .close else .tail

/-- Where the lines from `index` on stop. -/
def stopFrom (s : Session) (index : Nat) : Stop :=
  match s.script.line? index with
  | some l => .line index l
  | none => s.stopAfterLines

/-- Where the next advance stops, unless the session is cancelled. -/
def stop (s : Session) : Stop :=
  match s.phase with
  | .start => if (Duration.ofMillis s.pacing.settle).isZero then s.stopFrom 0 else .settle
  | .enter index => s.stopFrom index
  | .leave index => s.stopFrom (index + 1)
  | .tail => s.stopAfterLines
  | .conclude | .done _ => .close

variable {W V : Type}

/-- What an advance shows on its way. -/
def lead (s : Session) (w : W) : List (Event W) :=
  match s.phase with
  | .start => [.render w]
  | .leave index => [.active index false]
  | _ => []

variable [World W] [View V W]

/-- The turn that ends at a stop. -/
def stopAt (s : Session) (w : W) (v : V) : Stop → Turn W V
  | .settle => ⟨.pause (.ofMillis s.pacing.settle), { s with phase := .enter 0 }, w, v⟩
  | .line index l =>
      ⟨.pause ((Passage.ofLine w l).pause s.pacing), s.afterPassage index (Passage.ofLine w l),
        (Passage.ofLine w l).worldAfter w, View.replay v ((Passage.ofLine w l).entered index)⟩
  | .tail => ⟨.pause (.ofMillis s.pacing.tail), { s with phase := .conclude }, w, v⟩
  | .close =>
      ⟨.finished (Ending.of s.failedLine w).outcome,
        { s with phase := .done (Ending.of s.failedLine w).outcome },
        (Ending.of s.failedLine w).world, View.replay v (Ending.of s.failedLine w).events⟩

theorem tailing_eq_stopAt (s : Session) (w : W) (v : V) :
    s.tailing w v = s.stopAt w v s.stopAfterLines := by
  unfold stopAfterLines
  cases hzero : (Duration.ofMillis s.pacing.tail).isZero with
  | true => rw [tailing_of_isZero hzero, concluding_eq, if_pos rfl, stopAt]
  | false => rw [tailing_of_not_isZero hzero, if_neg Bool.false_ne_true, stopAt]

theorem entering_eq_stopAt (s : Session) (index : Nat) (w : W) (v : V) :
    s.entering index w v = s.stopAt w v (s.stopFrom index) := by
  unfold stopFrom
  cases hline : s.script.line? index with
  | none => rw [entering_of_end hline, tailing_eq_stopAt]
  | some l => rw [entering_of_line hline, stopAt]

theorem starting_eq_stopAt {s : Session} (hphase : s.phase = .start) (w : W) (v : V) :
    s.starting w v = s.stopAt w (View.observe v (Event.render w)) s.stop := by
  have hstop : s.stop =
      if (Duration.ofMillis s.pacing.settle).isZero then s.stopFrom 0 else .settle := by
    rw [stop, hphase]
  rw [hstop]
  cases hzero : (Duration.ofMillis s.pacing.settle).isZero with
  | true => rw [starting_of_isZero hzero, entering_eq_stopAt, if_pos rfl]
  | false => rw [starting_of_not_isZero hzero, if_neg Bool.false_ne_true, stopAt]

/-- **One advance.**  A session that is neither done nor cancelled goes on to its next stop. -/
theorem advance_of_live {s : Session} (hopen : s.isDone = false) (hlive : s.cancelled = false)
    (w : W) (v : V) : s.advance w v = s.stopAt w (View.replay v (s.lead w)) s.stop := by
  cases hphase : s.phase with
  | start =>
      rw [advance_of_start hphase hlive, starting_eq_stopAt hphase, lead, hphase]
      rfl
  | enter index =>
      rw [advance_of_enter hphase hlive, entering_eq_stopAt, lead, stop, hphase]
      rfl
  | leave index =>
      rw [advance_of_leave hphase hlive, entering_eq_stopAt, lead, stop, hphase]
      rfl
  | tail =>
      rw [advance_of_tail hphase hlive, tailing_eq_stopAt, lead, stop, hphase]
      rfl
  | conclude =>
      rw [advance_of_conclude hphase hlive, concluding_eq, lead, stop, hphase]
      rfl
  | done o => simp [isDone, hphase] at hopen

end Session

/-! ## Views -/

/-- A turn that was recorded, seen by another view. -/
def Turn.onto {W V : Type} [View V W] (t : Turn W (Recording W)) (v : V) : Turn W V :=
  ⟨t.step, t.session, t.world, View.replay v t.view.events⟩

namespace Session

variable {W V : Type} [World W] [View V W]

theorem stopAt_onto (s : Session) (stop : Stop) (w : W) (v : V) (es : List (Event W)) :
    s.stopAt w (View.replay v es) stop = (s.stopAt w (⟨es⟩ : Recording W) stop).onto v := by
  cases stop with
  | settle => rfl
  | line index l => rw [stopAt, stopAt, Recording.replay_eq, Turn.onto, View.replay_append]
  | tail => rfl
  | close => rw [stopAt, stopAt, Recording.replay_eq, Turn.onto, View.replay_append]

/-- **A view has no part in a run.**  It takes in the events of a turn, and all else is what it is
with a recording in its place. -/
theorem advance_onto (s : Session) (w : W) (v : V) (es : List (Event W)) :
    s.advance w (View.replay v es) = (s.advance w (⟨es⟩ : Recording W)).onto v := by
  cases hdone : s.isDone with
  | true =>
      obtain ⟨o, hphase⟩ := exists_of_isDone hdone
      rw [advance_of_done hphase, advance_of_done hphase]
      rfl
  | false =>
      cases hcancelled : s.cancelled with
      | true =>
          rw [advance_of_cancelled hdone hcancelled, advance_of_cancelled hdone hcancelled]
          rfl
      | false =>
          rw [advance_of_live hdone hcancelled, advance_of_live hdone hcancelled,
            Recording.replay_eq, ← View.replay_append]
          exact stopAt_onto s s.stop w v _

end Session

/-! ## Shapes of a turn -/

/-- What is fixed for the whole of a session. -/
def Session.Continues (s s' : Session) : Prop :=
  s'.script = s.script ∧ s'.pacing = s.pacing ∧ s'.cancelled = s.cancelled

/-- The shapes of a turn from the session `s`: a pause, after which the session is still open, or the
end, which the session remembers. -/
inductive Turn.Regular {W V : Type} (s : Session) : Turn W V → Prop where
  | pause {d : Duration} {s' : Session} {w : W} {v : V} (hcontinues : s.Continues s')
      (hopen : s'.isDone = false) : Turn.Regular s ⟨.pause d, s', w, v⟩
  | finished {o : Outcome} {s' : Session} {w : W} {v : V} (hcontinues : s.Continues s')
      (hphase : s'.phase = .done o) : Turn.Regular s ⟨.finished o, s', w, v⟩

namespace Session

variable {W V : Type} [World W] [View V W]

theorem regular_stopAt (s : Session) (stop : Stop) (w : W) (v : V) :
    (s.stopAt w v stop).Regular s := by
  cases stop with
  | settle => exact .pause ⟨rfl, rfl, rfl⟩ rfl
  | line index l =>
      refine .pause ⟨rfl, rfl, rfl⟩ ?_
      cases hp : (Passage.ofLine w l).isFailed with
      | true => rw [afterPassage_of_failed hp]; rfl
      | false => rw [afterPassage_of_not_failed hp]; rfl
  | tail => exact .pause ⟨rfl, rfl, rfl⟩ rfl
  | close => exact .finished ⟨rfl, rfl, rfl⟩ rfl

/-- Every advance pauses or ends the session; none is idle. -/
theorem regular_advance (s : Session) (w : W) (v : V) : (s.advance w v).Regular s := by
  cases hdone : s.isDone with
  | true =>
      obtain ⟨o, hphase⟩ := exists_of_isDone hdone
      rw [advance_of_done hphase]
      exact .finished ⟨rfl, rfl, rfl⟩ hphase
  | false =>
      cases hcancelled : s.cancelled with
      | true =>
          rw [advance_of_cancelled hdone hcancelled]
          exact .finished ⟨rfl, rfl, rfl⟩ rfl
      | false =>
          rw [advance_of_live hdone hcancelled]
          exact regular_stopAt s s.stop w _

end Session

end StepScript
