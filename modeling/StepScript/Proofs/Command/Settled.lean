import StepScript.Proofs.Command.Stage
import StepScript.Proofs.Config.Accepted
import StepScript.Proofs.Config.Fields
import StepScript.Proofs.Game.Placement
set_option autoImplicit false

/-!
# Commands: the configuration that a run settles

The overrides of a run are applied to a configuration that has been checked, and it is not checked
again.  It need not be: no rule reads the kind or the seed.  The pacing of a kind is looked up late,
when a simulator is made, so it is that of the last kind named, and the game, which has an expression
of its own for it, agrees with the others.

Main statement: `settleConfig_rules`, for all options and all files.
-/

namespace StepScript

namespace Config

/-- No rule reads the kind or the seed. -/
theorem check_override (o : RunOptions) (base : Config) : (o.override base).check = base.check := rfl

/-- The defaults keep all rules. -/
theorem check_standard : standard.check = .ok () := by
  rw [check_eq_ok_iff, violations_eq_nil_iff]
  exact ⟨by decide +kernel, nofun, by decide +kernel⟩

end Config

namespace RunOptions

variable {o : RunOptions} {read : FileReader}

/-- What a run starts from: the defaults without a file, and else what the file says. -/
inductive Source (o : RunOptions) (read : FileReader) : Config → Prop
  | defaults (h : o.config = none) : Source o read .standard
  | file {path yaml : String} {base : Config} (h : o.config = some path)
      (hread : read path = .ok yaml) (hyaml : Config.ofYaml yaml = .ok base)
      (hfields : base.ReadFrom yaml) : Source o read base

/-- Why a configuration is not settled: its file cannot be read, or is rejected. -/
inductive Refused (o : RunOptions) (read : FileReader) : Error → Prop
  | unreadable {path : String} {fault : ReadFault} (h : o.config = some path)
      (hread : read path = .error fault) : Refused o read (.io fault)
  | rejected {path yaml : String} {e : Error} (h : o.config = some path)
      (hread : read path = .ok yaml) (hyaml : Config.ofYaml yaml = .error e) : Refused o read e

/-- The configuration `c` has been settled from `base`. -/
structure Settled (o : RunOptions) (base c : Config) : Prop where
  /-- It keeps the rules of both passes. -/
  valid : c.checkFields = .ok () ∧ c.checkRules = .ok ()
  /-- There is room for a target, and that is where a game places it. -/
  room : 2 ≤ c.board.gridSize ∧ c.apple.IsPlace c.board.gridSize
  kind : c.kind = o.kind.getD base.kind
  seed : c.seed = o.seed.getD base.seed
  sections : c.board = base.board ∧ c.game = base.game
  /-- A simulation is a run on its stage, refused only for a script without a word on the panel, and
  the session it starts has the pacing that was set, or that of the kind settled on. -/
  pacing : ∀ (text : String) (sink : Sink) (clock : Clock),
    let stage := c.stage (Config.openingScreen text sink)
    simulate c text sink clock = (stage.run text clock).simulation ∧
      (stage.simulator.run? text = none ↔
        c.kind = .led ∧ (Script.parse text).isBlank = true) ∧
      ∀ started, stage.simulator.run? text = some started → started.session =
        some (.new (Script.parse text) (base.pacing.getD (.ofKind c.kind)))

/-- What becomes of the configuration of a run. -/
structure SettleRules (o : RunOptions) (read : FileReader) : Prop where
  settled : ∀ c, o.settleConfig read = .ok c → ∃ base, o.Source read base ∧ o.Settled base c
  refused : ∀ e, o.settleConfig read = .error e ↔ o.Refused read e
  /-- Without a configuration no script is run, nor even read: the error is reported, whatever the
  other files are. -/
  silent : ∀ e, o.Refused read e → ∀ read' : FileReader,
    (∀ path, o.config = some path → read' path = read path) →
      Command.performRun o read' = ⟨1, "", "Error: " ++ e.message ++ "\n"⟩
  /-- No other configuration gets to a simulator. -/
  prepared : ∀ p, o.prepare read = .ok p → o.settleConfig read = .ok p.config

/-- A configuration that is settled comes from a source that keeps the rules. -/
theorem exists_source {c : Config} (h : o.settleConfig read = .ok c) :
    ∃ base, o.Source read base ∧ base.check = .ok () ∧ c = o.override base := by
  obtain ⟨base, hbase, rfl⟩ := (settleConfig_eq_ok_iff c).mp h
  cases hbase with
  | ofKind hnone =>
      -- The kind of the options replaces itself, so the defaults will do as the source.
      refine ⟨.standard, .defaults hnone, Config.check_standard, ?_⟩
      cases hkind : o.kind <;> simp [override, Config.ofKind, hkind, Config.standard]
  | ofFile hpath hread hyaml =>
      exact ⟨base, .file hpath hread hyaml (Config.readFrom_of_ofYaml hyaml),
        Config.check_of_ofYaml hyaml, rfl⟩

/-- What is settled from a source that keeps the rules. -/
theorem settled_override (o : RunOptions) {base : Config} (hcheck : base.check = .ok ()) :
    o.Settled base (o.override base) := by
  have hsize : 2 ≤ base.board.gridSize := by
    have hviolations := ((Config.check_eq_ok_iff base).mp hcheck).1
    obtain ⟨-, ⟨hleast, -⟩, -⟩ := (Config.violations_eq_nil_iff base).mp hviolations
    exact UInt32.le_iff_toNat_le.mpr hleast
  refine ⟨?_, ⟨hsize, drawTarget_isPlace hsize _⟩, rfl, rfl, ⟨rfl, rfl⟩, ?_⟩
  · rw [← Config.check_override o base, Config.check] at hcheck
    cases hfields : (o.override base).checkFields with
    | error e => simp [hfields] at hcheck
    | ok _ =>
        simp only [hfields] at hcheck
        exact ⟨rfl, hcheck⟩
  · intro text sink clock stage
    exact ⟨rfl, Config.run?_stage_eq_none_iff _ text _,
      fun started hrun => Config.session_run?_stage hrun⟩

theorem settleConfig_eq_error_iff (e : Error) :
    o.settleConfig read = .error e ↔ o.Refused read e := by
  constructor
  · intro h
    simp only [settleConfig] at h
    cases hconfig : o.config with
    | none =>
        rw [hconfig] at h
        cases h
    | some path =>
        simp only [hconfig] at h
        cases hread : read path with
        | error fault =>
            rw [hread] at h
            obtain rfl := Except.error.inj h
            exact .unreadable hconfig hread
        | ok yaml =>
            simp only [hread] at h
            cases hyaml : Config.ofYaml yaml with
            | ok base =>
                rw [hyaml] at h
                cases h
            | error e' =>
                rw [hyaml] at h
                obtain rfl := Except.error.inj h
                exact .rejected hconfig hread hyaml
  · intro h
    cases h with
    | unreadable hpath hread =>
        simp only [settleConfig, hpath, hread]
        rfl
    | rejected hpath hread hyaml =>
        simp only [settleConfig, hpath, hread, hyaml]
        rfl

/-- A run that settles no configuration reports why, and that is all it does. -/
theorem performRun_of_refused {e : Error} (h : o.Refused read e) :
    Command.performRun o read = ⟨1, "", "Error: " ++ e.message ++ "\n"⟩ := by
  have hsettle := (settleConfig_eq_error_iff e).mpr h
  rw [Command.performRun, prepare, hsettle]

/-- **The configuration of a run**, for all options and all files. -/
theorem settleConfig_rules (o : RunOptions) (read : FileReader) : o.SettleRules read where
  settled c h := by
    obtain ⟨base, hsource, hcheck, rfl⟩ := exists_source h
    exact ⟨base, hsource, o.settled_override hcheck⟩
  refused := settleConfig_eq_error_iff
  silent e h read' hsame := by
    refine performRun_of_refused ?_
    cases h with
    | unreadable hpath hread => exact .unreadable hpath ((hsame _ hpath).trans hread)
    | rejected hpath hread hyaml => exact .rejected hpath ((hsame _ hpath).trans hread) hyaml
  prepared p h := by
    rw [prepare] at h
    split at h
    · cases h
    · next c hsettle =>
        split at h
        · cases h
        · rw [hsettle, ← Except.ok.inj h]

end RunOptions

end StepScript
