import StepScript.Run.Notice
set_option autoImplicit false

/-!
# Views: the recording

A recording keeps every event in order, worlds included.  A frame packs a step together with all
that was recorded since the last frame.
-/

namespace StepScript

/-- All events so far, the oldest first. -/
structure Recording (W : Type) where
  events : List (Event W)
  deriving DecidableEq, Repr

namespace Recording

variable {W : Type}

/-- Nothing recorded. -/
def empty : Recording W := ⟨[]⟩

instance : Inhabited (Recording W) := ⟨empty⟩

instance : View (Recording W) W := ⟨fun r e => ⟨r.events ++ [e]⟩⟩

@[simp] theorem events_observe (r : Recording W) (e : Event W) :
    (View.observe r e).events = r.events ++ [e] := rfl

@[simp] theorem events_replay (r : Recording W) (es : List (Event W)) :
    (View.replay r es).events = r.events ++ es := by
  induction es generalizing r with
  | nil => simp
  | cons e es ih => simp [ih]

/-- The worlds shown, in order. -/
def renders (r : Recording W) : List W :=
  r.events.filterMap fun
    | .render w => some w
    | _ => none

theorem renders_append (a b : List (Event W)) :
    (⟨a ++ b⟩ : Recording W).renders = (⟨a⟩ : Recording W).renders ++ (⟨b⟩ : Recording W).renders :=
  List.filterMap_append

/-- The notices given, in order. -/
def notices (r : Recording W) : List Notice :=
  r.events.filterMap fun
    | .notice n => some n
    | _ => none

theorem notices_append (a b : List (Event W)) :
    (⟨a ++ b⟩ : Recording W).notices = (⟨a⟩ : Recording W).notices ++ (⟨b⟩ : Recording W).notices :=
  List.filterMap_append

/-- The lines that became active, in order. -/
def activatedLines (r : Recording W) : List Nat :=
  r.events.filterMap fun
    | .active line true => some line
    | _ => none

theorem activatedLines_append (a b : List (Event W)) :
    (⟨a ++ b⟩ : Recording W).activatedLines =
      (⟨a⟩ : Recording W).activatedLines ++ (⟨b⟩ : Recording W).activatedLines :=
  List.filterMap_append

end Recording

/-- A step with the events that led to it. -/
structure Frame (W : Type) where
  step : Step
  events : List (Event W)
  deriving DecidableEq, Repr

namespace Recording

/-- Packs a step with all that was recorded and starts over. -/
def frame {W : Type} (r : Recording W) (step : Step) : Frame W × Recording W :=
  (⟨step, r.events⟩, empty)

end Recording

end StepScript
