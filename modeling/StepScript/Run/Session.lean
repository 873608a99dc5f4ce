import StepScript.Run.World
import StepScript.Run.Notice
import StepScript.Run.Pacing
set_option autoImplicit false

/-!
# Runs: sessions

A session is one execution of a script, taken from one pause to the next:

    start → enter 0 → leave 0 → enter 1 → … → tail → conclude → done

A line that asks for an invalid move is the last one; the session goes on to its tail.  Once a
session is cancelled its next advance ends it, without an event and without touching the world.
-/

namespace StepScript

/-- Where a session goes on. -/
inductive Phase where
  | start
  | enter (line : Nat)
  | leave (line : Nat)
  | tail
  | conclude
  | done (o : Outcome)
  deriving DecidableEq, Repr

/-- One execution of a script. -/
structure Session where
  script : Script
  pacing : Pacing
  cancelled : Bool
  phase : Phase
  /-- The line that asked for an invalid move. -/
  failedLine : Option Nat
  /-- Lines entered so far, blank ones included. -/
  executed : Nat
  deriving DecidableEq, Repr

/-- What one advance leaves. -/
structure Turn (W V : Type) where
  step : Step
  session : Session
  world : W
  view : V

namespace Session

/-- A session before its first advance. -/
def new (script : Script) (pacing : Pacing) : Session :=
  ⟨script, pacing, false, .start, none, 0⟩

/-- Asks a session to end at its next advance. -/
def cancel (s : Session) : Session := { s with cancelled := true }

/-- Whether a session has ended. -/
def isDone (s : Session) : Bool :=
  match s.phase with
  | .done _ => true
  | _ => false

/-- Whether a session has neither ended nor been cancelled. -/
def isActive (s : Session) : Bool := !s.isDone && !s.cancelled

theorem isActive_iff (s : Session) :
    s.isActive = true ↔ s.isDone = false ∧ s.cancelled = false := by
  simp [isActive]

section Advance

variable {W V : Type} [World W] [View V W]

/-- Ends a session. -/
def finish (s : Session) (o : Outcome) (w : W) (v : V) : Turn W V :=
  ⟨.finished o, { s with phase := .done o }, w, v⟩

/-- Judges the world after the last line, unless a line failed. -/
def concluding (s : Session) (w : W) (v : V) : Turn W V :=
  match s.failedLine with
  | some line => s.finish (.aborted line) w v
  | none =>
      match World.close w with
      | (none, w') => s.finish .completed w' v
      | (some verdict, w') =>
          let v := View.observe v (Event.notice (W := W) (.ofVerdict verdict))
          s.finish (.ofVerdict verdict) w' (View.observe v (Event.render w'))

/-- Pauses once more before the conclusion, unless that pause takes no time. -/
def tailing (s : Session) (w : W) (v : V) : Turn W V :=
  let pause := Duration.ofMillis s.pacing.tail
  if pause.isZero then s.concluding w v
  else ⟨.pause pause, { s with phase := .conclude }, w, v⟩

/-- Runs a command of line `index`. -/
def execute (s : Session) (index : Nat) (command : World.Command W) (w : W) (v : V) : Turn W V :=
  match World.act command w with
  | .error e w' =>
      let v := View.observe v (Event.notice (W := W) (.ofInvalidMove index e))
      ⟨.pause (.ofMillis s.pacing.error), { s with phase := .tail, failedLine := some index }, w',
        View.observe v (Event.failed (W := W) index)⟩
  | .ok .idle w' => ⟨.pause (.ofMillis s.pacing.idle), { s with phase := .leave index }, w', v⟩
  | .ok .changed w' =>
      ⟨.pause (.ofMillis s.pacing.effect), { s with phase := .leave index }, w',
        View.observe v (Event.render w')⟩
  | .ok (.wait d) w' => ⟨.pause d, { s with phase := .leave index }, w', v⟩

/-- Runs line `index`, or goes on to the tail after the last line. -/
def entering (s : Session) (index : Nat) (w : W) (v : V) : Turn W V :=
  match s.script.line? index with
  | none => s.tailing w v
  | some line =>
      let s := { s with executed := s.executed + 1 }
      let v := View.observe v (Event.active (W := W) index true)
      if line.isBlank then
        ⟨.pause (.ofMillis s.pacing.blank), { s with phase := .leave index }, w, v⟩
      else s.execute index (World.decode line) w v

/-- Shows the world, and pauses before the first line unless that pause takes no time. -/
def starting (s : Session) (w : W) (v : V) : Turn W V :=
  let v := View.observe v (Event.render w)
  let pause := Duration.ofMillis s.pacing.settle
  if pause.isZero then s.entering 0 w v
  else ⟨.pause pause, { s with phase := .enter 0 }, w, v⟩

/-- Runs a session up to its next pause or to its end.  A session that has ended reports its outcome
again. -/
def advance (s : Session) (w : W) (v : V) : Turn W V :=
  match s.phase with
  | .done o => ⟨.finished o, s, w, v⟩
  | phase =>
      if s.cancelled then s.finish .cancelled w v
      else
        match phase with
        | .done o => ⟨.finished o, s, w, v⟩
        | .start => s.starting w v
        | .enter index => s.entering index w v
        | .leave index =>
            s.entering (index + 1) w (View.observe v (Event.active (W := W) index false))
        | .tail => s.tailing w v
        | .conclude => s.concluding w v

end Advance

end Session

end StepScript
