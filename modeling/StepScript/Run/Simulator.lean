import StepScript.Run.Session
import StepScript.Time.Clock
set_option autoImplicit false

/-!
# Runs: simulators

A simulator owns a world and at most one session.  A run asked for while a session is active is
dropped, as is one that the world refuses.  Each accepted run has a number; a cancel token is that
number, so it reaches its own session and none before or after.
-/

namespace StepScript

/-- Names one accepted run of a simulator, to cancel it from elsewhere. -/
structure CancelToken where
  run : Nat
  deriving DecidableEq, Repr

/-- A world with at most one session. -/
structure Simulator (W : Type) where
  world : W
  /-- Pacing of the next run. -/
  pacing : Pacing
  session : Option Session
  /-- Number of accepted runs so far. -/
  accepted : Nat
  deriving DecidableEq, Repr

/-- What one advance of a simulator leaves. -/
structure Progress (W V : Type) where
  step : Step
  simulator : Simulator W
  view : V

/-- What a run to the end leaves; the outcome is absent when the run was dropped. -/
structure Completion (W V : Type) where
  outcome : Option Outcome
  simulator : Simulator W
  view : V
  clock : Clock

namespace Simulator

variable {W V : Type}

/-- A simulator without a session. -/
def new (world : W) (pacing : Pacing) : Simulator W := ⟨world, pacing, none, 0⟩

/-- Changes the pacing of the runs after this one. -/
def setPacing (s : Simulator W) (pacing : Pacing) : Simulator W := { s with pacing := pacing }

/-- Whether a session is active. -/
def isRunning (s : Simulator W) : Bool := s.session.any Session.isActive

/-- The token of the session, if there is one. -/
def token? (s : Simulator W) : Option CancelToken := s.session.map fun _ => ⟨s.accepted⟩

/-- Whether the session has been asked to end, if there is one. -/
def isCancelled? (s : Simulator W) : Option Bool := s.session.map Session.cancelled

/-- Asks the session that a token names to end. -/
def cancel (s : Simulator W) (t : CancelToken) : Simulator W :=
  if t.run = s.accepted then { s with session := s.session.map Session.cancel } else s

section World

variable [World W]

/-- Starts a session for a text, and says whether it did.  The request is dropped while a session is
active; else the world makes ready for the script, and drops the request by refusing it. -/
def start (text : String) : StateM (Simulator W) Bool := do
  let s ← get
  if s.isRunning then return false
  else
    let script := Script.parse text
    let (taken, world) := World.prepare script s.world
    set { s with world := world }
    if taken then
      modify fun s =>
        { s with session := some (.new script s.pacing), accepted := s.accepted + 1 }
      return true
    else return false

/-- The simulator with a session for a text, unless the request is dropped. -/
def run? (s : Simulator W) (text : String) : Option (Simulator W) := granted? (start text) s

theorem start_of_running {s : Simulator W} (hrunning : s.isRunning = true) (text : String) :
    start text s = (false, s) := by
  rw [start, get_bind_apply, if_pos hrunning]
  rfl

/-- Without an active session the world alone decides. -/
theorem start_of_free {s : Simulator W} (hfree : s.isRunning = false) (text : String) :
    start text s =
      match World.begin? s.world (Script.parse text) with
      | none => (false, s)
      | some w => (true, { s with
          world := w, session := some (.new (Script.parse text) s.pacing)
          accepted := s.accepted + 1 }) := by
  rw [start, get_bind_apply, hfree, if_neg Bool.false_ne_true]
  simp only [World.prepare_eq]
  cases World.begin? s.world (Script.parse text) <;> rfl

/-- A request that is dropped leaves no trace, whichever of the two drops it. -/
theorem start_refused (text : String) (s s' : Simulator W) (h : start text s = (false, s')) :
    s' = s := by
  cases hrunning : s.isRunning with
  | true =>
      rw [start_of_running hrunning] at h
      exact (Prod.mk.inj h).2.symm
  | false =>
      rw [start_of_free hrunning] at h
      cases hbegun : World.begin? s.world (Script.parse text) with
      | none =>
          rw [hbegun] at h
          exact (Prod.mk.inj h).2.symm
      | some w =>
          rw [hbegun] at h
          cases h

/-- A run request in place, from the simulator that it leaves when it is granted. -/
theorem start_eq (text : String) (s : Simulator W) :
    start text s = ((s.run? text).isSome, (s.run? text).getD s) :=
  eq_granted? (start_refused text s)

theorem run?_of_running {s : Simulator W} (hrunning : s.isRunning = true) (text : String) :
    s.run? text = none := by
  rw [run?, granted?, start_of_running hrunning]

theorem run?_of_free {s : Simulator W} (hfree : s.isRunning = false) (text : String) :
    s.run? text = (World.begin? s.world (Script.parse text)).map fun w =>
      { s with
        world := w, session := some (.new (Script.parse text) s.pacing)
        accepted := s.accepted + 1 } := by
  rw [run?, granted?, start_of_free hfree]
  cases World.begin? s.world (Script.parse text) <;> rfl

variable [View V W]

/-- Takes the session to its next pause; an ended session is dropped. -/
def advance (s : Simulator W) (v : V) : Progress W V :=
  match s.session with
  | none => ⟨.idle, s, v⟩
  | some session =>
      let turn := session.advance s.world v
      let left :=
        match turn.step with
        | .finished _ => none
        | _ => some turn.session
      ⟨turn.step, { s with world := turn.world, session := left }, turn.view⟩

/-- Asks any session to end, puts the world back to its first state and shows it. -/
def reset (s : Simulator W) (v : V) : Simulator W × V :=
  let world := World.reset s.world
  ({ s with world := world, session := s.session.map Session.cancel },
    View.observe v (Event.render world))

/-- Advances until the session ends, at most so many times, and lets every pause pass. -/
def drive : Nat → Simulator W → V → Clock → Completion W V
  | 0, s, v, clock => ⟨none, s, v, clock⟩
  | fuel + 1, s, v, clock =>
      let p := s.advance v
      match p.step with
      | .pause d => drive fuel p.simulator p.view (clock.pause d)
      | .finished o => ⟨some o, p.simulator, p.view, clock⟩
      | .idle => ⟨none, p.simulator, p.view, clock⟩

/-- More advances than a session takes: one for each line, and those for the pauses before and after
the lines and for the end. -/
def stepBudget (s : Simulator W) : Nat :=
  match s.session with
  | none => 1
  | some session => session.script.length + 3

/-- Runs a text to its end. -/
def runBlocking (s : Simulator W) (text : String) (v : V) (clock : Clock) : Completion W V :=
  match start text s with
  | (true, s) => s.drive s.stepBudget v clock
  | (false, s) => ⟨none, s, v, clock⟩

theorem runBlocking_of_none {s : Simulator W} {text : String} (h : s.run? text = none) (v : V)
    (clock : Clock) : s.runBlocking text v clock = ⟨none, s, v, clock⟩ := by
  rw [runBlocking, start_eq, h]
  rfl

theorem runBlocking_of_some {s started : Simulator W} {text : String}
    (h : s.run? text = some started) (v : V) (clock : Clock) :
    s.runBlocking text v clock = started.drive started.stepBudget v clock := by
  rw [runBlocking, start_eq, h]
  rfl

end World

end Simulator

end StepScript
