import StepScript.Proofs.Command.ExitStatus
set_option autoImplicit false

/-!
# Commands: the stage of a simulation

A stage takes any view in place of the terminal, so that views can be compared.

Main statements: `run?_stage_eq_none_iff`, which texts are refused; `session_run?_stage`, the session
that the run starts; `run_stage_onto`, by which a view has no part in a simulation.
-/

namespace StepScript

namespace Config

variable {V : Type}

/-! ## Before the run -/

/-- What every stage is like before the run: nothing has been run, and the pacing is that of the
configuration or of the kind. -/
theorem simulator_stage (c : Config) [View V c.kind.Scene] (v : V) :
    (c.stage v).simulator =
      .new (c.stage v).simulator.world (c.pacing.getD (.ofKind c.kind)) := by
  have hkinds : ∀ k, c.kind = k → ∀ [View V k.Scene], (c.stageAs v k).simulator =
      .new (c.stageAs v k).simulator.world (c.pacing.getD (.ofKind k)) := by
    intro k hkind _
    have hpacing : c.effectivePacing = c.pacing.getD (.ofKind k) := by rw [effectivePacing, hkind]
    cases k with
    | turtle => exact congrArg (Simulator.new c.turtle) hpacing
    | game => rfl
    | led => exact congrArg (Simulator.new Panel.off) hpacing
  exact hkinds c.kind rfl

/-- The session that a simulation starts. -/
theorem session_run?_stage {c : Config} {text : String} [View V c.kind.Scene] {v : V}
    {started : Simulator c.kind.Scene} (hrun : (c.stage v).simulator.run? text = some started) :
    started.session = some (.new (Script.parse text) (c.pacing.getD (.ofKind c.kind))) := by
  rw [c.simulator_stage v] at hrun
  obtain ⟨-, w, -, rfl⟩ := (Simulator.run?_eq_some_iff _ _ _).mp hrun
  rfl

/-- The run is refused on the panel, for a script without a word, and nowhere else. -/
theorem run?_stage_eq_none_iff (c : Config) (text : String) [View V c.kind.Scene] (v : V) :
    (c.stage v).simulator.run? text = none ↔
      c.kind = .led ∧ (Script.parse text).isBlank = true := by
  have hkinds : ∀ k, ∀ [View V k.Scene], (c.stageAs v k).simulator.run? text = none ↔
      k = .led ∧ (Script.parse text).isBlank = true := by
    intro k _
    cases k with
    | turtle => exact ⟨nofun, nofun⟩
    | game => exact ⟨nofun, nofun⟩
    | led =>
        have hrun : (c.stageAs v .led).simulator.run? text =
            (if (Script.parse text).isBlank then none else some Panel.off).map fun w =>
              { (c.stageAs v .led).simulator with
                world := w
                session := some (.new (Script.parse text) c.effectivePacing)
                accepted := 1 } := by
          rw [← Panel.off.world_begin?]
          exact Simulator.run?_of_free rfl text
        rw [hrun]
        cases (Script.parse text).isBlank <;> simp
  exact hkinds c.kind

end Config

/-! ## Views -/

/-- A run that was recorded, seen by another view. -/
def Completion.onto {W V : Type} [View V W] (done : Completion W (Recording W)) (v : V) :
    Completion W V :=
  ⟨done.outcome, done.simulator, View.replay v done.view.events, done.clock⟩

/-- A view has no part in a run to the end. -/
theorem Simulator.runBlocking_onto {W V : Type} [World W] [View V W] (s : Simulator W)
    (text : String) (v : V) (es : List (Event W)) (clock : Clock) :
    s.runBlocking text (View.replay v es) clock =
      (s.runBlocking text (⟨es⟩ : Recording W) clock).onto v := by
  cases hrun : s.run? text with
  | none =>
      rw [runBlocking_of_none hrun, runBlocking_of_none hrun, Completion.onto]
  | some started =>
      obtain ⟨hfree, w, hbegun, -⟩ := (run?_eq_some_iff s text started).mp hrun
      rw [runBlocking_of_begun hfree hbegun, runBlocking_of_begun hfree hbegun]
      simp only [Recording.replay_eq, Completion.onto, View.replay_append]

namespace Config

variable {V : Type}

/-- The run of a configuration, recorded from the start. -/
def record (c : Config) (text : String) (clock : Clock) :
    Completion c.kind.Scene (Recording c.kind.Scene) :=
  (c.stage (Recording.empty : Recording c.kind.Scene)).run text clock

/-- A view has no part in the stage. -/
theorem stage_onto (c : Config) [View V c.kind.Scene] (v : V) :
    c.stage v =
      let recorded := c.stage (Recording.empty : Recording c.kind.Scene)
      ⟨recorded.simulator, View.replay v recorded.view.events⟩ := by
  have hkinds : ∀ k, ∀ [View V k.Scene], c.stageAs v k =
      let recorded := c.stageAs (Recording.empty : Recording k.Scene) k
      ⟨recorded.simulator, View.replay v recorded.view.events⟩ := by
    intro k _
    cases k with
    | turtle => rfl
    | game => rfl
    | led => rfl
  exact hkinds c.kind

/-- **A view has no part in a simulation**: it takes in what a recording would hold. -/
theorem run_stage_onto (c : Config) [View V c.kind.Scene] (v : V) (text : String) (clock : Clock) :
    (c.stage v).run text clock = (c.record text clock).onto v := by
  rw [stage_onto]
  exact Simulator.runBlocking_onto _ text v _ clock

end Config

end StepScript
