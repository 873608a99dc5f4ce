import StepScript.Proofs.Run.Transcript
import StepScript.View.Recording
set_option autoImplicit false

/-!
# Runs: lines under other numbers

The number of a line is told by the events about it, by the notice of its failure and by the outcome
of a run that it aborts.  Nothing else of a run depends on it, so lines that move take their events
along under other numbers.

Main statements: `Passage.eventsFrom_renumber`, for the events of several lines, and `Ending.of_map`
and `Ending.events_renumber`, for the end of a run.
-/

namespace StepScript

/-- The same outcome, its line with another number. -/
def Outcome.renumber (f : Nat → Nat) : Outcome → Outcome
  | .aborted line => .aborted (f line)
  | o => o

theorem Outcome.renumber_congr {f g : Nat → Nat} {o : Outcome}
    (h : ∀ k, o = .aborted k → f k = g k) : o.renumber f = o.renumber g := by
  cases o with
  | aborted line => exact congrArg aborted (h line rfl)
  | completed => rfl
  | won => rfl
  | lost => rfl
  | cancelled => rfl

/-- The same notice, its line with another number. -/
def Notice.renumber (f : Nat → Nat) : Notice → Notice
  | .invalidMove line x y => .invalidMove (f line) x y
  | n => n

/-- The same event, its line with another number. -/
def Event.renumber {W : Type} (f : Nat → Nat) : Event W → Event W
  | .render w => .render w
  | .active line on => .active (f line) on
  | .failed line => .failed (f line)
  | .notice n => .notice (n.renumber f)

/-- The number of a line once another one has been put in before line `j`. -/
def movedBy (j line : Nat) : Nat := if j ≤ line then line + 1 else line

theorem movedBy_of_lt {j line : Nat} (h : line < j) : movedBy j line = line := by
  rw [movedBy, if_neg (Nat.not_le.mpr h)]

theorem movedBy_of_le {j line : Nat} (h : j ≤ line) : movedBy j line = line + 1 := by
  rw [movedBy, if_pos h]

variable {W : Type}

theorem Recording.renders_renumber (f : Nat → Nat) (es : List (Event W)) :
    (⟨es.map (Event.renumber f)⟩ : Recording W).renders = (⟨es⟩ : Recording W).renders := by
  simp only [renders, List.filterMap_map]
  congr 1
  funext e
  cases e <;> rfl

theorem Recording.notices_renumber (f : Nat → Nat) (es : List (Event W)) :
    (⟨es.map (Event.renumber f)⟩ : Recording W).notices =
      (⟨es⟩ : Recording W).notices.map (Notice.renumber f) := by
  simp only [notices, List.filterMap_map, List.map_filterMap]
  congr 1
  funext e
  cases e <;> rfl

theorem Recording.activatedLines_renumber (f : Nat → Nat) (es : List (Event W)) :
    (⟨es.map (Event.renumber f)⟩ : Recording W).activatedLines =
      (⟨es⟩ : Recording W).activatedLines.map f := by
  simp only [activatedLines, List.filterMap_map, List.map_filterMap]
  congr 1
  funext e
  cases e with
  | active line on => cases on <;> rfl
  | render w => rfl
  | failed line => rfl
  | notice n => rfl

theorem Passage.events_renumber (f : Nat → Nat) (line : Nat) (p : Passage W) :
    (p.events line).map (Event.renumber f) = p.events (f line) := by
  cases p with
  | blank => rfl
  | done w effect => cases effect <;> rfl
  | failed e => rfl

/-- Lines one after the other may start from another number. -/
theorem Passage.eventsFrom_renumber {f : Nat → Nat} {first first' : Nat} {ps : List (Passage W)}
    (hf : ∀ i < ps.length, f (first + i) = first' + i) :
    (eventsFrom first ps).map (Event.renumber f) = eventsFrom first' ps := by
  induction ps generalizing first first' with
  | nil => rfl
  | cons p ps ih =>
      have hfirst : f first = first' := hf 0 (Nat.succ_pos _)
      have hrest : ∀ i < ps.length, f (first + 1 + i) = first' + 1 + i := by
        intro i hi
        have hnext := hf (i + 1) (Nat.succ_lt_succ hi)
        rwa [Nat.add_comm i, ← Nat.add_assoc, ← Nat.add_assoc] at hnext
      rw [eventsFrom_cons, List.map_append, events_renumber, hfirst, ih hrest, eventsFrom_cons]

variable [World W]

/-- The end of a run tells of no line, but for the outcome. -/
theorem Ending.of_map (f : Nat → Nat) (failure? : Option Nat) (w : W) :
    Ending.of (failure?.map f) w =
      { Ending.of failure? w with outcome := (Ending.of failure? w).outcome.renumber f } := by
  cases failure? with
  | some line => rfl
  | none =>
      simp only [Ending.of, Option.map_none]
      cases World.conclude? w with
      | none => rfl
      | some judged =>
          obtain ⟨verdict, w'⟩ := judged
          cases verdict <;> rfl

theorem Ending.events_renumber (f : Nat → Nat) (failure? : Option Nat) (w : W) :
    (Ending.of failure? w).events.map (Event.renumber f) = (Ending.of failure? w).events := by
  cases failure? with
  | some line => rfl
  | none =>
      simp only [Ending.of]
      cases World.conclude? w with
      | none => rfl
      | some judged =>
          obtain ⟨verdict, w'⟩ := judged
          cases verdict <;> rfl

end StepScript
