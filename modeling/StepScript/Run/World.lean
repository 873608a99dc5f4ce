import StepScript.Script.Basic
import StepScript.Board.Guard
import StepScript.Run.Outcome
set_option autoImplicit false

/-!
# Runs: worlds

A world is what a script acts on.  It reads a line as a command of its own, applies commands, can be
put back to its first state, may refuse a script before a run, and may judge itself after one.

A world is acted on in place: each action leaves a world, also where it says no.  That it then leaves
the world that it found is a law, which every world proves of the order of its own reads and writes.
`World.apply`, `World.begin?` and `World.conclude?` read the actions as partial functions;
`World.act_eq`, `World.prepare_eq` and `World.close_eq` give the actions back from them.
-/

namespace StepScript

/-! ## Actions in place -/

/-- An action that reads the state goes on with the one that it finds. -/
theorem get_bind_apply {S α : Type} (next : S → StateM S α) (s : S) :
    (get >>= next) s = next s s := rfl

theorem get_bind_apply_of_except {ε S α : Type} (next : S → EStateM ε S α) (s : S) :
    (get >>= next) s = next s s := rfl

/-- An action that checks first goes no further than an error, which leaves the state as it is. -/
theorem ofExcept_bind_apply {ε S α β : Type} (check : Except ε α) (next : α → EStateM ε S β)
    (s : S) :
    (MonadExcept.ofExcept check >>= next) s =
      match check with
      | .ok a => next a s
      | .error e => .error e s := by
  cases check <;> rfl

/-- The state that a request leaves, if it is granted. -/
def granted? {S : Type} (request : StateM S Bool) (s : S) : Option S :=
  match request s with
  | (true, s') => some s'
  | (false, _) => none

/-- A request whose refusal leaves no trace, from what it leaves when it is granted. -/
theorem eq_granted? {S : Type} {request : StateM S Bool} {s : S}
    (hrefused : ∀ s', request s = (false, s') → s' = s) :
    request s = ((granted? request s).isSome, (granted? request s).getD s) := by
  unfold granted?
  match h : request s with
  | (true, s') => rfl
  | (false, s') => rw [hrefused s' h]; rfl

/-- A request that a state passes on to a part of it. -/
def passOn {S T α : Type} (part : S → T) (put : S → T → S) (request : StateM T α) : StateM S α :=
  fun s =>
    let (answer, t) := request (part s)
    (answer, put s t)

theorem granted?_passOn {S T : Type} (part : S → T) (put : S → T → S) (request : StateM T Bool)
    (s : S) : granted? (passOn part put request) s = (granted? request (part s)).map (put s) := by
  unfold granted? passOn
  match request (part s) with
  | (true, t) => rfl
  | (false, t) => rfl

/-! ## Worlds -/

/-- A state that scripts act on. -/
class World (W : Type) where
  /-- Meaning of one line. -/
  Command : Type
  /-- Reads a line that is not blank; an unknown command does nothing. -/
  decode : Line → Command
  /-- Applies a command. -/
  act : Command → EStateM InvalidMove W Effect
  /-- The first state again, any play session ended. -/
  reset : W → W
  /-- Makes the world ready for a run of a script, and says whether it takes the script. -/
  prepare : Script → StateM W Bool
  /-- Judges the world after a run without error, if there is something to judge. -/
  close : StateM W (Option Verdict)
  /-- An invalid move leaves no trace. -/
  act_error : ∀ c w e w', act c w = .error e w' → w' = w
  /-- A refused script leaves no trace. -/
  prepare_refused : ∀ script w w', prepare script w = (false, w') → w' = w
  /-- A world without a judgement stays as it is. -/
  close_unjudged : ∀ w w', close w = (none, w') → w' = w

namespace World

variable {W : Type} [World W]

/-- The world and the effect that a command leaves, or the invalid move that it asks for. -/
def apply (w : W) (c : Command W) : Except InvalidMove (W × Effect) :=
  match act c w with
  | .ok effect w' => .ok (w', effect)
  | .error e _ => .error e

/-- The world made ready for a run of a script, unless it refuses the script. -/
def begin? (w : W) (script : Script) : Option W := granted? (prepare script) w

/-- Judgement after a run without error, and the world left by it. -/
def conclude? (w : W) : Option (Verdict × W) :=
  match close w with
  | (some verdict, w') => some (verdict, w')
  | (none, _) => none

theorem act_eq (c : Command W) (w : W) :
    act c w =
      match apply w c with
      | .ok (w', effect) => .ok effect w'
      | .error e => .error e w := by
  unfold apply
  cases h : act c w with
  | ok effect w' => rfl
  | error e w' => rw [act_error c w e w' h]

theorem act_of_ok {c : Command W} {w w' : W} {effect : Effect}
    (h : apply w c = .ok (w', effect)) : act c w = .ok effect w' := by
  rw [act_eq, h]

theorem prepare_eq (script : Script) (w : W) :
    prepare script w = ((begin? w script).isSome, (begin? w script).getD w) :=
  eq_granted? (prepare_refused script w)

theorem close_eq (w : W) :
    close w = ((conclude? w).map Prod.fst, ((conclude? w).map Prod.snd).getD w) := by
  unfold conclude?
  match h : close w with
  | (some verdict, w') => rfl
  | (none, w') => rw [close_unjudged w w' h]; rfl

end World

end StepScript
