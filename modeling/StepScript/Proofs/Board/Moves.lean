import StepScript.Board.Turtle
import StepScript.Proofs.Number.Order
import StepScript.Run.Session
import StepScript.View.Recording
set_option autoImplicit false

/-!
# Board: what a command does to the turtle

A move is made as a whole or not at all, and a turn is always made.  A position that the guard accepts
is one of numbers, because every comparison with what is not a number fails; between finite bounds it
is finite as well.

Main statements: `Turtle.movesWhole`, all that a command can do to a turtle, in place as well;
`Guard.isNumber_of_check` and `Guard.isFinite_of_check`, for the positions that the guard accepts.
-/

namespace StepScript

/-! ## Positions -/

namespace Guard

/-- Both ends of the tolerant range are finite. -/
def IsBounded (g : Guard) : Prop :=
  (-g.epsilon).isFinite = true ∧ (g.maxCoordinate + g.epsilon).isFinite = true

theorem axisContains_iff (g : Guard) (value : Float) :
    g.axisContains value = true ↔ -g.epsilon ≤ value ∧ value ≤ g.maxCoordinate + g.epsilon := by
  simp [axisContains]

theorem check_eq_ok_iff_le (g : Guard) (x y : Float) :
    g.check x y = .ok () ↔
      (-g.epsilon ≤ x ∧ x ≤ g.maxCoordinate + g.epsilon) ∧
        -g.epsilon ≤ y ∧ y ≤ g.maxCoordinate + g.epsilon := by
  rw [check_eq_ok_iff, accepts, Bool.and_eq_true, axisContains_iff, axisContains_iff]

/-- Coordinates that are accepted are numbers. -/
theorem isNumber_of_check {g : Guard} {x y : Float} (h : g.check x y = .ok ()) :
    x.isNaN = false ∧ y.isNaN = false := by
  obtain ⟨⟨-, hx⟩, -, hy⟩ := (g.check_eq_ok_iff_le x y).mp h
  exact ⟨isNaN_eq_false_of_le hx, isNaN_eq_false_of_le hy⟩

/-- Coordinates that are accepted within finite bounds are finite. -/
theorem isFinite_of_check {g : Guard} (hbounded : g.IsBounded) {x y : Float}
    (h : g.check x y = .ok ()) : x.isFinite = true ∧ y.isFinite = true := by
  obtain ⟨hlow, hhigh⟩ := hbounded
  obtain ⟨hx, hy⟩ := (g.check_eq_ok_iff_le x y).mp h
  exact ⟨isFinite_of_le_of_le hx.1 hx.2 hlow hhigh, isFinite_of_le_of_le hy.1 hy.2 hlow hhigh⟩

end Guard

/-! ## Commands -/

namespace TurtleCommand

/-- How far a command moves the turtle along its heading, if it is a move. -/
def distance? : TurtleCommand → Option Float
  | .forward d => some d
  | .back d => some (-d)
  | _ => none

/-- How far a command turns the turtle clockwise, if it is a turn. -/
def turn? : TurtleCommand → Option Float
  | .right degrees => some degrees
  | .left degrees => some (-degrees)
  | _ => none

end TurtleCommand

namespace Turtle

theorem apply_of_distance? {c : TurtleCommand} {d : Float} (hmove : c.distance? = some d)
    (t : Turtle) : t.apply c = (t.move d).map fun t => (t, .changed) := by
  cases c with
  | forward distance =>
      obtain rfl := Option.some.inj hmove
      rfl
  | back distance =>
      obtain rfl := Option.some.inj hmove
      rfl
  | right degrees => cases hmove
  | left degrees => cases hmove
  | noop => cases hmove

/-- A move fails exactly when the guard refuses the position that it asks for. -/
theorem move_eq_error_iff (t : Turtle) (d : Float) (e : InvalidMove) :
    t.move d = .error e ↔
      e = ⟨(t.candidate d).1, (t.candidate d).2⟩ ∧ t.guard.check e.x e.y = .error e := by
  have hrefused := t.guard.check_eq_error_iff (t.candidate d).1 (t.candidate d).2
  simp only [move]
  cases hcheck : t.guard.check (t.candidate d).1 (t.candidate d).2 with
  | error refused =>
      obtain ⟨-, rfl⟩ := (hrefused refused).mp hcheck
      constructor
      · rintro ⟨⟩
        exact ⟨rfl, hcheck⟩
      · rintro ⟨rfl, -⟩
        rfl
  | ok u =>
      constructor
      · rintro ⟨⟩
      · rintro ⟨rfl, herror⟩
        rw [hcheck] at herror
        cases herror

/-- A move that is made goes to the position that it asks for, which the guard accepts. -/
theorem move_eq_ok_iff (t t' : Turtle) (d : Float) :
    t.move d = .ok t' ↔
      t.guard.check (t.candidate d).1 (t.candidate d).2 = .ok () ∧
        t' = { t with pose := { t.pose with x := (t.candidate d).1, y := (t.candidate d).2 } } := by
  simp only [move]
  cases hcheck : t.guard.check (t.candidate d).1 (t.candidate d).2 with
  | error refused =>
      constructor
      · rintro ⟨⟩
      · rintro ⟨⟨⟩, -⟩
  | ok u =>
      constructor
      · rintro ⟨⟩
        exact ⟨rfl, rfl⟩
      · rintro ⟨-, rfl⟩
        rfl

/-- A command fails in place exactly when it is one that fails; it leaves the turtle that it found. -/
theorem act_eq_error_iff (t t' : Turtle) (c : TurtleCommand) (e : InvalidMove) :
    act c t = .error e t' ↔ t.apply c = .error e ∧ t' = t := by
  rw [act_eq]
  cases t.apply c with
  | ok left =>
      constructor
      · intro h
        cases h
      · rintro ⟨h, -⟩
        cases h
  | error refused =>
      constructor
      · rintro ⟨⟩
        exact ⟨rfl, rfl⟩
      · rintro ⟨⟨⟩, rfl⟩
        rfl

/-- A command is made in place exactly when it is one that can be, and leaves what it is said to. -/
theorem act_eq_ok_iff (t t' : Turtle) (c : TurtleCommand) (effect : Effect) :
    act c t = .ok effect t' ↔ t.apply c = .ok (t', effect) := by
  rw [act_eq]
  cases t.apply c with
  | error refused =>
      constructor
      · intro h
        cases h
      · intro h
        cases h
  | ok left =>
      constructor
      · rintro ⟨⟩
        rfl
      · rintro ⟨⟩
        rfl

/-- All that a command that is made can be: a move, a turn or nothing. -/
theorem apply_cases {t t' : Turtle} {c : TurtleCommand} {effect : Effect}
    (happly : t.apply c = .ok (t', effect)) :
    (∃ x y, effect = .changed ∧ t.guard.check x y = .ok () ∧
      t' = { t with pose := { t.pose with x := x, y := y } }) ∨
    (∃ degrees, effect = .changed ∧ t' = t.rotate degrees) ∨
    (effect = .idle ∧ t' = t) := by
  have hmove : ∀ d, (t.move d).map (fun t => (t, Effect.changed)) = .ok (t', effect) →
      ∃ x y, effect = .changed ∧ t.guard.check x y = .ok () ∧
        t' = { t with pose := { t.pose with x := x, y := y } } := by
    intro d hmoved
    cases hthere : t.move d with
    | error e =>
        rw [hthere] at hmoved
        cases hmoved
    | ok there =>
        rw [hthere] at hmoved
        cases hmoved
        obtain ⟨hcheck, hwhere⟩ := (t.move_eq_ok_iff t' d).mp hthere
        exact ⟨_, _, rfl, hcheck, hwhere⟩
  cases c with
  | forward d => exact .inl (hmove d happly)
  | back d => exact .inl (hmove (-d) happly)
  | right d => cases happly; exact .inr (.inl ⟨d, rfl, rfl⟩)
  | left d => cases happly; exact .inr (.inl ⟨-d, rfl, rfl⟩)
  | noop => cases happly; exact .inr (.inr ⟨rfl, rfl⟩)

/-- What a command can do to the turtle: a move is made as a whole or not at all. -/
structure MovesWhole (t : Turtle) : Prop where
  /-- A command that fails half way through its writes would leave another turtle than it found; none
  does. -/
  unmoved : ∀ c e t', act c t = .error e t' ↔ t.apply c = .error e ∧ t' = t
  /-- A command that is made leaves, write by write, the turtle that it is said to leave. -/
  made : ∀ c effect t', act c t = .ok effect t' ↔ t.apply c = .ok (t', effect)
  /-- Only a move fails, with the position that it asks for, and it does so when the guard refuses
  that position. -/
  error_iff : ∀ c e, t.apply c = .error e ↔ ∃ d, c.distance? = some d ∧
    e = ⟨t.pose.x + (t.pose.displacement d).1, t.pose.y + (t.pose.displacement d).2⟩ ∧
      t.guard.check e.x e.y = .error e
  /-- A move that is made goes to the position that it asks for, which the guard accepts, and changes
  nothing else. -/
  moved : ∀ c d t' effect, c.distance? = some d → t.apply c = .ok (t', effect) →
    effect = .changed ∧ t.guard.check t'.pose.x t'.pose.y = .ok () ∧
      t' = { t with
        pose := { t.pose with
          x := t.pose.x + (t.pose.displacement d).1
          y := t.pose.y + (t.pose.displacement d).2 } }
  /-- A turn is always made, and changes the heading only. -/
  turned : ∀ c degrees, c.turn? = some degrees →
    t.apply c = .ok ({ t with pose := { t.pose with heading := t.pose.heading + degrees } },
      .changed)
  /-- Any other command does nothing. -/
  idle : ∀ c : TurtleCommand, c.distance? = none → c.turn? = none → t.apply c = .ok (t, .idle)
  /-- A session that asks for a move that fails gives notice of the position, and the turtle stays as
  it is. -/
  refused : ∀ (session : Session) (index : Nat) (c : TurtleCommand) (e : InvalidMove),
    t.apply c = .error e →
      (session.execute index c t (Recording.empty : Recording Turtle)).world = t ∧
        (session.execute index c t (Recording.empty : Recording Turtle)).view.events =
          [.notice (.invalidMove index e.x e.y), .failed index]

/-- **Moves are whole**, for every turtle on every board. -/
theorem movesWhole (t : Turtle) : t.MovesWhole where
  unmoved c e t' := t.act_eq_error_iff t' c e
  made c effect t' := t.act_eq_ok_iff t' c effect
  error_iff c e := by
    constructor
    · intro hfailed
      cases hmove : c.distance? with
      | none => cases c <;> simp [TurtleCommand.distance?, apply] at hmove hfailed
      | some d =>
          rw [apply_of_distance? hmove] at hfailed
          cases hmoved : t.move d with
          | ok t' =>
              rw [hmoved] at hfailed
              cases hfailed
          | error refused =>
              rw [hmoved] at hfailed
              obtain rfl : refused = e := Except.error.inj hfailed
              obtain ⟨he, hcheck⟩ := (t.move_eq_error_iff d _).mp hmoved
              exact ⟨d, rfl, he, hcheck⟩
    · rintro ⟨d, hmove, he, hcheck⟩
      rw [apply_of_distance? hmove, (t.move_eq_error_iff d e).mpr ⟨he, hcheck⟩]
      rfl
  moved c d t' effect hmove hmade := by
    rw [apply_of_distance? hmove] at hmade
    cases hmoved : t.move d with
    | error refused =>
        rw [hmoved] at hmade
        cases hmade
    | ok there =>
        rw [hmoved] at hmade
        obtain ⟨rfl, rfl⟩ := Prod.mk.inj (Except.ok.inj hmade)
        obtain ⟨hcheck, rfl⟩ := (t.move_eq_ok_iff _ d).mp hmoved
        exact ⟨rfl, hcheck, rfl⟩
  turned c degrees hturn := by
    cases c with
    | right d =>
        obtain rfl := Option.some.inj hturn
        rfl
    | left d =>
        obtain rfl := Option.some.inj hturn
        rfl
    | forward d => cases hturn
    | back d => cases hturn
    | noop => cases hturn
  idle c hmove hturn := by
    cases c with
    | noop => rfl
    | forward d => cases hmove
    | back d => cases hmove
    | right d => cases hturn
    | left d => cases hturn
  refused session index c e hfailed := by
    have hact : World.act c t = .error e t := (t.act_eq_error_iff t c e).mpr ⟨hfailed, rfl⟩
    constructor
    · simp only [Session.execute, hact]
    · simp only [Session.execute, hact]
      rfl

end Turtle

end StepScript
