import StepScript.Error
import StepScript.Game.Basic
import StepScript.Proofs.Board.Moves
import StepScript.Proofs.Run.Blocking
set_option autoImplicit false

/-!
# Configuration: what is accepted

The rules refuse a value that compares below its least or above its greatest one.  Of a number that
is as good as a range, since the order of numbers is total.  What is not a number compares neither
way, so the rules for doubles let it pass; the guard, which asks for the positive comparison, then
has no position at all.

Main statement: `accepted_of_ofYaml`, for every configuration that is read from a text.
-/

namespace StepScript

/-! ## Rules -/

theorem checkNat_eq_nil_iff (field : String) (least greatest : Option Nat) (value : Nat) :
    checkNat field least greatest value = [] ↔
      (∀ bound ∈ least, bound ≤ value) ∧ ∀ bound ∈ greatest, value ≤ bound := by
  cases least <;> cases greatest <;> simp [checkNat]

theorem checkFloat_eq_nil_iff (field : String) (least greatest : Option Float) (value : Float) :
    checkFloat field least greatest value = [] ↔
      (∀ bound ∈ least, ¬ value < bound) ∧ ∀ bound ∈ greatest, ¬ bound < value := by
  cases least <;> cases greatest <;> simp [checkFloat]

theorem checkLength_eq_nil_iff (field : String) (least : Nat) (value : String) :
    checkLength field least value = [] ↔ least ≤ value.length := by
  simp [checkLength]

/-- A pacing section is in range when no pause of it is too long. -/
theorem Pacing.violations_eq_nil_iff (p : Pacing) :
    p.violations = [] ↔ ∀ ms ∈ p.delays, ms.toNat ≤ longestPause := by
  simp [violations, delays, checkNat_eq_nil_iff]

namespace Config

theorem violations_eq_nil_iff (c : Config) :
    c.violations = [] ↔
      1 ≤ c.schemaVersion.length ∧ (2 ≤ c.board.gridSize.toNat ∧ c.board.gridSize.toNat ≤ 64) ∧
        (¬ c.board.epsilon < 0.0 ∧ ¬ 0.5 < c.board.epsilon) ∧ ¬ c.game.winRadius < 0.0 := by
  simp [violations, checkNat_eq_nil_iff, checkFloat_eq_nil_iff, checkLength_eq_nil_iff, and_assoc]

/-- Both passes let a configuration through that breaks no rule of either. -/
theorem check_eq_ok_iff (c : Config) :
    c.check = .ok () ↔ c.violations = [] ∧ (∀ p, c.pacing = some p → p.violations = []) ∧
      ¬ c.board.gridSize.toFloat < c.game.winRadius := by
  have hfields : c.checkFields = .ok () ↔ c.violations = [] := by
    rw [checkFields, ← List.isEmpty_iff]
    cases c.violations.isEmpty <;> simp
  have hrules : c.checkRules = .ok () ↔ (∀ p, c.pacing = some p → p.violations = []) ∧
      ¬ c.board.gridSize.toFloat < c.game.winRadius := by
    have hpacing : (∀ p, c.pacing = some p → p.violations = []) ↔
        (c.pacing.map Pacing.violations).getD [] = [] := by
      cases c.pacing <;> simp
    rw [hpacing, ← List.isEmpty_iff, checkRules]
    cases ((c.pacing.map Pacing.violations).getD []).isEmpty with
    | false => simp
    | true =>
        by_cases hradius : c.board.gridSize.toFloat < c.game.winRadius
        · simp [hradius]
        · simp [hradius]
  rw [check, ← hrules, ← hfields]
  cases c.checkFields with
  | error fault => simp
  | ok _ => simp

/-- A configuration that is read has passed the checks. -/
theorem check_of_ofYaml {text : String} {c : Config} (h : ofYaml text = .ok c) :
    c.check = .ok () := by
  unfold ofYaml at h
  dsimp only at h
  split at h
  · cases h
  · rename_i read _
    split at h
    · cases h
    · rename_i hcheck
      obtain rfl := Except.ok.inj h
      exact hcheck

end Config

/-! ## The guard -/

namespace Guard

/-- With a tolerance that is not below zero the start cell is on the board. -/
theorem check_home {g : Guard} (h : 0.0 ≤ g.epsilon) : g.check 0.0 0.0 = .ok () := by
  have hlow : -g.epsilon ≤ 0.0 := neg_le_zero h
  have hhigh : 0.0 ≤ g.maxCoordinate + g.epsilon := zero_le_add (zero_le_toFloat _) h
  exact (g.check_eq_ok_iff_le 0.0 0.0).mpr ⟨⟨hlow, hhigh⟩, hlow, hhigh⟩

/-- With a tolerance that is not a number nothing is on the board. -/
theorem check_of_isNaN {g : Guard} (h : g.epsilon.isNaN = true) (x y : Float) :
    g.check x y = .error ⟨x, y⟩ := by
  refine (g.check_eq_error_iff x y _).mpr ⟨?_, rfl⟩
  rw [accepts, Bool.and_eq_false_iff]
  left
  rw [Bool.eq_false_iff, ne_eq, axisContains_iff]
  rintro ⟨hlow, -⟩
  have hnumber := isNaN_eq_false_of_le hlow
  rw [isNaN_neg h] at hnumber
  cases hnumber

end Guard

/-! ## Scripts that stand still -/

/-- Every line that is not blank is a move of no length. -/
def Script.StandsStill (s : Script) : Prop :=
  ∀ l ∈ s.lines, l.isBlank = true ∨
    ∃ d, (TurtleCommand.ofLine l).distance? = some d ∧ (d == 0.0) = true

namespace Turtle

/-- From home a move of no length asks for home. -/
theorem candidate_of_zero {t : Turtle} (hhome : t.pose = .home) {d : Float}
    (hd : (d == 0.0) = true) : t.candidate d = (0.0, 0.0) := by
  let angle := radians (Pose.home.heading - 90.0)
  have hcosine : (cosine angle).isFinite = true := by
    rw [cosine_of_zero (by decide +kernel)]
    decide +kernel
  have hsine : (sine angle).isFinite = true := by
    rw [sine_of_zero (by decide +kernel)]
    decide +kernel
  have hcandidate : t.candidate d = (0.0 + cosine angle * d, 0.0 + sine angle * d) := by
    rw [candidate, hhome]
    rfl
  rw [hcandidate, zero_add_mul_zero hcosine hd, zero_add_mul_zero hsine hd]

theorem move_of_zero {t : Turtle} (hhome : t.pose = .home) (hguard : t.guard.check 0.0 0.0 = .ok ())
    {d : Float} (hd : (d == 0.0) = true) : t.move d = .ok t := by
  refine (t.move_eq_ok_iff t d).mpr ?_
  rw [candidate_of_zero hhome hd]
  refine ⟨hguard, ?_⟩
  obtain ⟨pose, guard, target, radius⟩ := t
  obtain rfl : pose = .home := hhome
  rfl

/-- The lines of a script that stands still leave a turtle at home as it is. -/
theorem failure?_of_standsStill {t : Turtle} (hhome : t.pose = .home)
    (hguard : t.guard.check 0.0 0.0 = .ok ()) {script : Script} (hstill : script.StandsStill) :
    Passage.failure? (Passage.ofLines t script.lines) = none := by
  obtain ⟨ls⟩ := script
  change ∀ l ∈ ls, _ at hstill
  change Passage.failure? (Passage.ofLines t ls) = none
  induction ls with
  | nil => rfl
  | cons l ls ih =>
      obtain ⟨hfirst, hrest⟩ := List.forall_mem_cons.mp hstill
      have hstays : (Passage.ofLine t l).isFailed = false ∧ (Passage.ofLine t l).worldAfter t = t := by
        unfold Passage.ofLine
        split
        · exact ⟨rfl, rfl⟩
        · rename_i hwritten
          obtain ⟨d, hmove, hd⟩ := hfirst.resolve_left hwritten
          have happly : World.apply t (World.decode l) = .ok (t, .changed) := by
            rw [world_apply_decode, apply_of_distance? hmove, move_of_zero hhome hguard hd]
            rfl
          rw [happly]
          exact ⟨rfl, rfl⟩
      rw [Passage.ofLines_cons_of_not_failed hstays.1,
        Passage.failure?_cons_of_not_failed hstays.1, hstays.2, ih hrest]
      rfl

end Turtle

/-- Such a script runs to its end, wherever the turtle was before. -/
theorem Simulator.ranToEnd_of_standsStill {V : Type} [View V Turtle] {s : Simulator Turtle}
    (hfree : s.isRunning = false) (hguard : s.world.guard.check 0.0 0.0 = .ok ()) {text : String}
    (hstill : (Script.parse text).StandsStill) (v : V) (clock : Clock) :
    ∃ o, (s.runBlocking text v clock).outcome = some o ∧ o.ranToEnd = true := by
  have houtcome : (s.runBlocking text v clock).outcome = _ :=
    outcome_runBlocking (w := s.world.goHome) hfree rfl v clock
  refine ⟨_, houtcome, ?_⟩
  have hfailure := Turtle.failure?_of_standsStill (t := s.world.goHome) rfl hguard hstill
  rw [Script.transcript, hfailure]
  exact Ending.ranToEnd_of none _

/-! ## Accepted configurations -/

/-- What holds of a configuration that is accepted. -/
structure Config.Accepted (c : Config) : Prop where
  version : c.schemaVersion ≠ ""
  size : 2 ≤ c.board.gridSize ∧ c.board.gridSize ≤ 64
  /-- A tolerance that is a number is in range. -/
  epsilon : c.board.epsilon.isNaN = false → 0.0 ≤ c.board.epsilon ∧ c.board.epsilon ≤ 0.5
  /-- A win radius that is a number is in range. -/
  winRadius : c.game.winRadius.isNaN = false →
    0.0 ≤ c.game.winRadius ∧ c.game.winRadius ≤ c.board.gridSize.toFloat
  pauses : ∀ p, c.pacing = some p → ∀ ms ∈ p.delays, ms ≤ 60000
  /-- Home is on the board just when the tolerance is a number. -/
  home_iff : c.turtle.guard.check 0.0 0.0 = .ok () ↔ c.board.epsilon.isNaN = false
  /-- Nothing is on the board when it is none. -/
  nowhere : c.board.epsilon.isNaN = true → ∀ x y, c.turtle.guard.check x y = .error ⟨x, y⟩
  /-- On a board with a home a script that stands still is never aborted. -/
  still : c.board.epsilon.isNaN = false → ∀ (s : Simulator Turtle) (text : String),
    s.world.guard = c.turtle.guard → s.isRunning = false → (Script.parse text).StandsStill →
      ∀ {V : Type} [View V Turtle] (v : V) (clock : Clock),
        ∃ o, (s.runBlocking text v clock).outcome = some o ∧ o.ranToEnd = true

/-- **An accepted configuration is in range and playable**, as far as its doubles are numbers. -/
theorem Config.accepted_of_ofYaml {text : String} {c : Config} (h : ofYaml text = .ok c) :
    c.Accepted := by
  obtain ⟨hfields, hpacing, hradius⟩ := c.check_eq_ok_iff.mp (check_of_ofYaml h)
  obtain ⟨hversion, hsize, ⟨hlow, hhigh⟩, hpositive⟩ := c.violations_eq_nil_iff.mp hfields
  have hepsilon : c.board.epsilon.isNaN = false → 0.0 ≤ c.board.epsilon ∧ c.board.epsilon ≤ 0.5 :=
    fun hnumber => ⟨float_le_of_not_lt hnumber rfl hlow, float_le_of_not_lt rfl hnumber hhigh⟩
  have hhome : c.board.epsilon.isNaN = false → c.turtle.guard.check 0.0 0.0 = .ok () :=
    fun hnumber => Guard.check_home (hepsilon hnumber).1
  have hnowhere : c.board.epsilon.isNaN = true → ∀ x y, c.turtle.guard.check x y = .error ⟨x, y⟩ :=
    fun hnan => Guard.check_of_isNaN hnan
  refine
    { version := ?version
      size := ⟨UInt32.le_iff_toNat_le.mpr hsize.1, UInt32.le_iff_toNat_le.mpr hsize.2⟩
      epsilon := hepsilon
      winRadius := ?winRadius
      pauses := ?pauses
      home_iff := ⟨?home, hhome⟩
      nowhere := hnowhere
      still := ?still }
  case version =>
    intro hempty
    rw [hempty] at hversion
    exact absurd hversion (by decide)
  case winRadius =>
    intro hnumber
    have hsizeNumber : c.board.gridSize.toFloat.isNaN = false :=
      isNaN_eq_false_of_ge (zero_le_toFloat c.board.gridSize)
    exact ⟨float_le_of_not_lt hnumber rfl hpositive, float_le_of_not_lt hsizeNumber hnumber hradius⟩
  case pauses =>
    intro p hp ms hms
    have hbound := p.violations_eq_nil_iff.mp (hpacing p hp) ms hms
    exact UInt64.le_iff_toNat_le.mpr hbound
  case home =>
    intro hok
    rw [Bool.eq_false_iff]
    intro hnan
    rw [hnowhere hnan] at hok
    cases hok
  case still =>
    intro hnumber s script hguard hfree hstill V _ v clock
    have hok := hhome hnumber
    rw [← hguard] at hok
    exact s.ranToEnd_of_standsStill hfree hok hstill v clock

theorem Config.ofYaml_eq_ok {text : String} {c : Config} (h : (ofYaml text).toOption = some c) :
    ofYaml text = .ok c := by
  cases hread : ofYaml text with
  | error e =>
      rw [hread] at h
      cases h
  | ok read =>
      rw [hread] at h
      rw [Option.some.inj h]

set_option maxRecDepth 100000 in
/-- A small board with a wide tolerance is accepted, and has a home. -/
theorem Config.accepted_of_small_board :
    let c := { standard with board := ⟨3, 0.25⟩ }
    ofYaml "board: \x7bgrid_size: 3, epsilon: 0.25\x7d" = .ok c ∧
      c.turtle.guard.check 0.0 0.0 = .ok () := by
  intro c
  have hread : ofYaml "board: \x7bgrid_size: 3, epsilon: 0.25\x7d" = .ok c :=
    ofYaml_eq_ok (by decide +kernel)
  exact ⟨hread, (accepted_of_ofYaml hread).home_iff.mpr (by decide +kernel)⟩

set_option maxRecDepth 100000 in
/-- A tolerance that is not a number is accepted, out of range as it is, and leaves no home: a move
of no length from there aborts a run. -/
theorem Config.accepted_without_home :
    let c := { standard with board := ⟨8, 0.0 / 0.0⟩ }
    ofYaml "board: \x7bepsilon: .nan\x7d" = .ok c ∧
      ¬ (0.0 ≤ c.board.epsilon ∧ c.board.epsilon ≤ 0.5) ∧
      c.turtle.guard.check 0.0 0.0 = .error ⟨0.0, 0.0⟩ ∧
      (Script.parse "ANDA 0").StandsStill ∧
      (c.turtleSimulator.runBlocking "ANDA 0" (⟨⟩ : NoView) .start).outcome =
        some (.aborted 0) := by
  intro c
  have hread : ofYaml "board: \x7bepsilon: .nan\x7d" = .ok c := ofYaml_eq_ok (by decide +kernel)
  have hnan : c.turtle.guard.epsilon.isNaN = true := by decide +kernel
  have hlines : (Script.parse "ANDA 0").lines = [⟨"ANDA 0", ["ANDA", "0"]⟩] := by decide +kernel
  have hstill : (Script.parse "ANDA 0").StandsStill := by
    intro l hl
    rw [hlines, List.mem_singleton] at hl
    subst hl
    exact .inr ⟨0.0, by decide +kernel, by decide +kernel⟩
  exact ⟨hread, by decide +kernel, Guard.check_of_isNaN hnan 0.0 0.0, hstill, by decide +kernel⟩

end StepScript
