import StepScript.Command.Perform
import StepScript.Proofs.Game.PlaySession
import StepScript.Proofs.Panel.Runs
set_option autoImplicit false

/-!
# Commands: the exit status

What the status of a command says about its run is told here without running it: by what can be
loaded, by the first line of the script that leaves the board, and by how far from the apple the
turtle stops.

Main statement: `exitStatus_of_commandLine`, for all arguments and all files.  Arguments that are no
use end in the help and with status 0, although they are an error.
-/

namespace StepScript

/-! ## Simulations -/

/-- Commands move and turn the turtle, and nothing else; so do whole scripts. -/
theorem Turtle.goHome_lastWorld (t : Turtle) (ls : List Line) :
    (Passage.lastWorld t (Passage.ofLines t ls)).goHome = t.goHome := by
  induction ls generalizing t with
  | nil => rfl
  | cons l ls ih =>
      cases hp : (Passage.ofLine t l).isFailed with
      | true =>
          rw [Passage.ofLines_cons_of_failed hp, Passage.lastWorld_cons, Passage.lastWorld_nil]
          exact t.goHome_worldAfter l
      | false =>
          rw [Passage.ofLines_cons_of_not_failed hp, Passage.lastWorld_cons, ih]
          exact t.goHome_worldAfter l

namespace Config

/-- The apple that a game of a configuration places first. -/
def apple (c : Config) : Square := (drawTarget c.board.gridSize (.ofSeed c.seed)).1

/-- The turtle that a run of a configuration starts with: at home, and in a game with an apple. -/
def player (c : Config) : Turtle :=
  match c.kind with
  | .game => c.turtle.setTarget (some c.apple)
  | _ => c.turtle

/-- What the lines of a text do to it. -/
def passages (c : Config) (text : String) : List (Passage Turtle) :=
  Passage.ofLines c.player (Script.parse text).lines

/-- Some line of the text takes the turtle off the board. -/
def Aborts (c : Config) (text : String) : Prop :=
  c.kind ≠ .led ∧ (Passage.failure? (c.passages text)).isSome = true

/-- No line of the text takes the turtle off the board, and the last one leaves it too far from the
apple. -/
def Loses (c : Config) (text : String) : Prop :=
  c.kind = .game ∧ Passage.failure? (c.passages text) = none ∧
    ¬ (Passage.lastWorld c.player (c.passages text)).pose.distanceTo c.apple < c.game.winRadius

theorem Aborts.not_loses {c : Config} {text : String} (h : c.Aborts text) : ¬ c.Loses text := by
  rintro ⟨-, hnone, -⟩
  have hsome := h.2
  rw [hnone] at hsome
  cases hsome

section Simulations

variable {c : Config} (text : String) (sink : Sink) (clock : Clock)

theorem simulate_of_kind {k : Kind} (hkind : c.kind = k) :
    simulate c text sink clock =
      ((c.stageAs (openingScreen text sink) k).run text clock).simulation := by
  subst hkind
  rfl

-- Each kind gets its equation, so that nothing below compares what simulators evaluate to.

theorem simulate_of_turtle (hkind : c.kind = .turtle) :
    simulate c text sink clock =
      (c.turtleSimulator.runBlocking text (openingScreen text sink) clock).simulation :=
  simulate_of_kind text sink clock hkind

theorem simulate_of_led (hkind : c.kind = .led) :
    simulate c text sink clock =
      (c.panelSimulator.runBlocking text (openingScreen text sink) clock).simulation :=
  simulate_of_kind text sink clock hkind

/-- A game is opened before its run. -/
theorem simulate_of_game (hkind : c.kind = .game) {opening : Opening Terminal}
    (hplay : (Game.ofConfig c).play (openingScreen text sink) = opening) :
    simulate c text sink clock =
      (opening.game.simulator.runBlocking text opening.view clock).simulation := by
  subst hplay
  exact simulate_of_kind text sink clock hkind

/-- The outcome of a simulation on a turtle is the end of the passages. -/
theorem outcome_simulate (hkind : c.kind ≠ .led) :
    (simulate c text sink clock).outcome =
      some (Ending.of (Passage.failure? (c.passages text))
        (Passage.lastWorld c.player (c.passages text))).outcome := by
  unfold passages player
  cases hc : c.kind with
  | led => exact absurd hc hkind
  | turtle =>
      rw [simulate_of_turtle text sink clock hc, Completion.outcome_simulation]
      exact Simulator.outcome_runBlocking rfl rfl _ clock
  | game =>
      have hsimulator := (Game.ofConfig c).simulator_play (openingScreen text sink)
      generalize hplay : (Game.ofConfig c).play (openingScreen text sink) = opening at hsimulator
      have hfree : opening.game.simulator.isRunning = false := by
        rw [hsimulator]
        rfl
      have hbegun : World.begin? opening.game.simulator.world (Script.parse text) =
          some (c.turtle.setTarget (some c.apple)) := by
        rw [hsimulator]
        rfl
      rw [simulate_of_game text sink clock hc hplay, Completion.outcome_simulation]
      exact Simulator.outcome_runBlocking hfree hbegun _ clock

/-- A simulation on the panel is not started or runs to its end. -/
theorem outcome_simulate_led (hkind : c.kind = .led) :
    (simulate c text sink clock).outcome =
      if (Script.parse text).isBlank then none else some .completed := by
  have hbegin : World.begin? c.panelSimulator.world (Script.parse text) =
      if (Script.parse text).isBlank then none else some Panel.off := Panel.off.world_begin? _
  rw [simulate_of_led text sink clock hkind, Completion.outcome_simulation]
  cases hblank : (Script.parse text).isBlank with
  | true =>
      rw [hblank, if_pos rfl] at hbegin
      have hrefused : c.panelSimulator.run? text = none := by
        rw [Simulator.run?_of_free rfl, hbegin]
        rfl
      rw [Simulator.runBlocking_of_none hrefused]
      rfl
  | false =>
      rw [hblank, if_neg Bool.false_ne_true] at hbegin
      rw [Simulator.outcome_runBlocking rfl hbegin, Script.transcript, Panel.failure?_ofLines]
      rfl

end Simulations

section Runs

variable {c : Config} (text : String)

/-- The turtle at the end of the lines still has the target and the win radius of the first one. -/
theorem target_lastWorld :
    (Passage.lastWorld c.player (c.passages text)).target = c.player.target ∧
      (Passage.lastWorld c.player (c.passages text)).winRadius = c.player.winRadius := by
  have hhome := c.player.goHome_lastWorld (Script.parse text).lines
  rw [← passages] at hhome
  generalize Passage.lastWorld c.player (c.passages text) = last at hhome ⊢
  have htarget := congrArg Turtle.target hhome
  have hradius := congrArg Turtle.winRadius hhome
  exact ⟨htarget, hradius⟩

/-- A game whose lines all run is judged by the distance to the apple. -/
theorem ending_of_game (hgame : c.kind = .game) :
    (Ending.of none (Passage.lastWorld c.player (c.passages text))).outcome =
      if (Passage.lastWorld c.player (c.passages text)).pose.distanceTo c.apple < c.game.winRadius
      then .won else .lost := by
  obtain ⟨htarget, hradius⟩ := target_lastWorld (c := c) text
  have hplayer : c.player = c.turtle.setTarget (some c.apple) := by rw [player, hgame]
  have happle : c.player.target = some c.apple := by
    rw [hplayer]
    rfl
  have hwin : c.player.winRadius = c.game.winRadius := by
    rw [hplayer]
    rfl
  rw [(Turtle.ending_of_target (htarget.trans happle)).1, hradius, hwin]

/-- A turtle on its own whose lines all run has completed its run. -/
theorem ending_of_turtle (hkind : c.kind ≠ .game) :
    (Ending.of none (Passage.lastWorld c.player (c.passages text))).outcome = .completed := by
  have hplayer : c.player = c.turtle := by
    rw [player]
    split
    · rename_i hgame
      exact absurd hgame hkind
    · rfl
  have hnone : c.player.target = none := by
    rw [hplayer]
    rfl
  rw [Turtle.ending_of_no_target ((target_lastWorld text).1.trans hnone)]

end Runs

/-- The status of a simulation is one of three. -/
theorem exitStatus_simulate (c : Config) (text : String) (sink : Sink) (clock : Clock) :
    (c.Aborts text ∧ exitStatus (simulate c text sink clock).outcome = 1) ∨
    (c.Loses text ∧ exitStatus (simulate c text sink clock).outcome = 2) ∨
    (¬ c.Aborts text ∧ ¬ c.Loses text ∧ exitStatus (simulate c text sink clock).outcome = 0) := by
  by_cases hled : c.kind = .led
  · -- On the panel no line fails and there is nothing to lose.
    refine .inr (.inr ⟨fun h => h.1 hled, fun h => ?_, ?_⟩)
    · rw [h.1] at hled
      cases hled
    · rw [outcome_simulate_led text sink clock hled]
      split
      · rfl
      · rfl
  · rw [outcome_simulate text sink clock hled]
    cases hfailure : Passage.failure? (c.passages text) with
    | some line => exact .inl ⟨⟨hled, by rw [hfailure]; rfl⟩, rfl⟩
    | none =>
        have hruns : ¬ c.Aborts text := by
          rintro ⟨-, hsome⟩
          rw [hfailure] at hsome
          cases hsome
        by_cases hgame : c.kind = .game
        · rw [ending_of_game text hgame]
          split
          · rename_i hnear
            exact .inr (.inr ⟨hruns, fun h => h.2.2 hnear, rfl⟩)
          · rename_i hfar
            exact .inr (.inl ⟨⟨hgame, hfailure, hfar⟩, rfl⟩)
        · rw [ending_of_turtle text hgame]
          exact .inr (.inr ⟨hruns, fun h => hgame h.1, rfl⟩)

end Config

/-! ## Commands -/

/-- The configuration of a run before the overrides: that of its kind, or of its file. -/
inductive RunOptions.Base (o : RunOptions) (read : FileReader) : Config → Prop
  | ofKind (h : o.config = none) : Base o read (.ofKind (o.kind.getD .turtle))
  | ofFile {path yaml : String} {base : Config} (h : o.config = some path)
      (hread : read path = .ok yaml) (hyaml : Config.ofYaml yaml = .ok base) : Base o read base

/-- A configuration with the kind and the seed of the options where these are given. -/
def RunOptions.override (o : RunOptions) (base : Config) : Config :=
  { base with kind := o.kind.getD base.kind, seed := o.seed.getD base.seed }

/-- A run is of the configuration `c` and of the text `text`. -/
structure RunOptions.Loads (o : RunOptions) (read : FileReader) (c : Config) (text : String) :
    Prop where
  config : ∃ base, o.Base read base ∧ c = o.override base
  script : read o.script = .ok text

namespace RunOptions

variable {o : RunOptions} {read : FileReader}

theorem settleConfig_eq_ok_iff (c : Config) :
    o.settleConfig read = .ok c ↔ ∃ base, o.Base read base ∧ c = o.override base := by
  have hmap : ∀ loaded : Except Error Config, loaded.map o.override = .ok c ↔
      ∃ base, loaded = .ok base ∧ c = o.override base := by
    intro loaded
    cases loaded with
    | error e => simp [Except.map]
    | ok base => simp [Except.map, eq_comm]
  refine (hmap _).trans (exists_congr fun base => and_congr_left' ?_)
  cases hconfig : o.config with
  | none =>
      constructor
      · intro hloaded
        obtain rfl := Except.ok.inj hloaded
        exact .ofKind hconfig
      · intro hbase
        cases hbase with
        | ofKind _ => rfl
        | ofFile hpath _ _ =>
            rw [hconfig] at hpath
            cases hpath
  | some path =>
      constructor
      · intro hloaded
        dsimp only at hloaded
        cases hread : read path with
        | error fault =>
            rw [hread] at hloaded
            cases hloaded
        | ok yaml =>
            rw [hread] at hloaded
            exact .ofFile hconfig hread hloaded
      · intro hbase
        cases hbase with
        | ofKind hnone =>
            rw [hconfig] at hnone
            cases hnone
        | ofFile hpath hread hyaml =>
            rw [hconfig] at hpath
            obtain rfl := Option.some.inj hpath
            dsimp only
            rw [hread]
            exact hyaml

theorem loads_iff {c : Config} {text : String} :
    o.Loads read c text ↔ o.settleConfig read = .ok c ∧ read o.script = .ok text := by
  rw [settleConfig_eq_ok_iff]
  exact ⟨fun h => ⟨h.config, h.script⟩, fun h => ⟨h.1, h.2⟩⟩

/-- There is one configuration and one text to load. -/
theorem Loads.unique {c c' : Config} {text text' : String} (h : o.Loads read c text)
    (h' : o.Loads read c' text') : c = c' ∧ text = text' := by
  obtain ⟨hconfig, hscript⟩ := loads_iff.mp h
  obtain ⟨hconfig', hscript'⟩ := loads_iff.mp h'
  exact ⟨Except.ok.inj (hconfig.symm.trans hconfig'), Except.ok.inj (hscript.symm.trans hscript')⟩

end RunOptions

namespace Command

/-- What a command fails by: a run of what cannot be loaded, a run that leaves the board, or a check
of a script that cannot be read. -/
inductive Fails (read : FileReader) : Command → Prop
  | unloaded {o : RunOptions} (h : ∀ c text, ¬ o.Loads read c text) : Fails read (.run o)
  | aborted {o : RunOptions} {c : Config} {text : String} (hloads : o.Loads read c text)
      (h : c.Aborts text) : Fails read (.run o)
  | unreadable {script : String} {kind : Kind} (h : ∀ text, read script ≠ .ok text) :
      Fails read (.check script kind)

/-- A run loses that loses its game. -/
inductive Loses (read : FileReader) : Command → Prop
  | lost {o : RunOptions} {c : Config} {text : String} (hloads : o.Loads read c text)
      (h : c.Loses text) : Loses read (.run o)

variable {read : FileReader}

/-- No run both fails and loses. -/
theorem Loses.not_fails {command : Command} (h : command.Loses read) : ¬ command.Fails read := by
  obtain ⟨hloads, hlost⟩ := h
  intro hfails
  cases hfails with
  | unloaded hnone => exact hnone _ _ hloads
  | aborted hloads' haborted =>
      obtain ⟨rfl, rfl⟩ := hloads.unique hloads'
      exact haborted.not_loses hlost

/-- The status of a run is 1 where nothing can be loaded, and else that of the simulation. -/
theorem status_performRun (read : FileReader) (o : RunOptions) :
    ((∀ c text, ¬ o.Loads read c text) ∧ (performRun o read).status = 1) ∨
      ∃ c text sink clock, o.Loads read c text ∧
        (performRun o read).status = exitStatus (simulate c text sink clock).outcome := by
  simp only [RunOptions.loads_iff, performRun, RunOptions.prepare]
  cases hconfig : o.settleConfig read with
  | error e => exact .inl ⟨nofun, rfl⟩
  | ok c =>
      cases hscript : read o.script with
      | error fault => exact .inl ⟨nofun, rfl⟩
      | ok text => exact .inr ⟨c, text, _, _, ⟨rfl, rfl⟩, rfl⟩

/-- The status of a command is one of three. -/
theorem status_perform (read : FileReader) (command : Command) :
    (command.Fails read ∧ (command.perform read).status = 1) ∨
    (command.Loses read ∧ (command.perform read).status = 2) ∨
    (¬ command.Fails read ∧ ¬ command.Loses read ∧ (command.perform read).status = 0) := by
  cases command with
  | run o =>
      rcases status_performRun read o with ⟨hnone, hstatus⟩ |
        ⟨c, text, sink, clock, hloads, hstatus⟩
      · exact .inl ⟨.unloaded hnone, hstatus⟩
      · rcases c.exitStatus_simulate text sink clock with ⟨haborts, hexit⟩ | ⟨hloses, hexit⟩ |
          ⟨hruns, hwins, hexit⟩
        · exact .inl ⟨.aborted hloads haborts, hstatus.trans hexit⟩
        · exact .inr (.inl ⟨.lost hloads hloses, hstatus.trans hexit⟩)
        · refine .inr (.inr ⟨fun hfails => ?_, fun hlost => ?_, hstatus.trans hexit⟩)
          · cases hfails with
            | unloaded hnone => exact hnone c text hloads
            | aborted hloads' haborts =>
                obtain ⟨rfl, rfl⟩ := hloads.unique hloads'
                exact hruns haborts
          · obtain ⟨hloads', hloses⟩ := hlost
            obtain ⟨rfl, rfl⟩ := hloads.unique hloads'
            exact hwins hloses
  | check script kind =>
      simp only [perform, performCheck]
      cases hread : read script with
      | error fault => exact .inl ⟨.unreadable fun text => by rw [hread]; nofun, rfl⟩
      | ok text =>
          refine .inr (.inr ⟨fun hfails => ?_, nofun, rfl⟩)
          cases hfails with
          | unreadable hnone => exact hnone text hread
  | help => exact .inr (.inr ⟨nofun, nofun, rfl⟩)
  | version => exact .inr (.inr ⟨nofun, nofun, rfl⟩)

/-- Each status stands for one of the three. -/
theorem status_perform_iff (read : FileReader) (command : Command) :
    ((command.perform read).status = 2 ↔ command.Loses read) ∧
      ((command.perform read).status = 1 ↔ command.Fails read) ∧
      ((command.perform read).status = 0 ↔ ¬ command.Loses read ∧ ¬ command.Fails read) := by
  rcases command.status_perform read with ⟨hfails, hstatus⟩ | ⟨hlost, hstatus⟩ |
    ⟨hruns, hwins, hstatus⟩
  · have hwins : ¬ command.Loses read := fun hlost => hlost.not_fails hfails
    simp [hstatus, hfails, hwins]
  · have hruns : ¬ command.Fails read := hlost.not_fails
    simp [hstatus, hruns, hlost]
  · simp [hstatus, hruns, hwins]

end Command

/-! ## The command line -/

/-- Arguments that are no use: an unknown command, or a run or a check without a script. -/
def IsUsageError : List String → Prop
  | _ :: name :: rest =>
      (name = "run" ∨ name = "check") ∧ rest = [] ∨
        name ∉ ["run", "check", "-h", "--help", "help", "-V", "--version", "version"]
  | _ => False

/-- Such arguments, and none, ask for the help. -/
theorem Command.ofArguments_of_isUsageError {arguments : List String} (h : IsUsageError arguments) :
    (Command.ofArguments arguments).1 = .help := by
  match arguments with
  | [] => exact h.elim
  | [_] => exact h.elim
  | _ :: name :: rest =>
      rcases h with ⟨rfl | rfl, rfl⟩ | hunknown
      · rfl
      · rfl
      · simp only [List.mem_cons, List.not_mem_nil, or_false, not_or] at hunknown
        obtain ⟨hrun, hcheck, hh, hhelp, hhelp', hv, hversion, hversion'⟩ := hunknown
        simp [Command.ofArguments, hrun, hcheck, hh, hhelp, hhelp', hv, hversion, hversion']

/-- The exit status of a command line. -/
structure StatusRules (arguments : List String) (read : FileReader) : Prop where
  /-- Status 2: a game is lost. -/
  lost_iff : (commandLine arguments read).status = 2 ↔
    (Command.ofArguments arguments).1.Loses read
  /-- Status 1: something cannot be loaded, or a line leaves the board. -/
  failed_iff : (commandLine arguments read).status = 1 ↔
    (Command.ofArguments arguments).1.Fails read
  /-- Status 0: every other case. -/
  fine_iff : (commandLine arguments read).status = 0 ↔
    ¬ (Command.ofArguments arguments).1.Loses read ∧ ¬ (Command.ofArguments arguments).1.Fails read
  /-- Only a game is lost. -/
  game : ∀ o c text, (Command.ofArguments arguments).1 = .run o → o.Loads read c text →
    c.kind ≠ .game → (commandLine arguments read).status ≠ 2
  /-- A usage error is one of the other cases. -/
  usage : IsUsageError arguments → (commandLine arguments read).status = 0

/-- **The exit status** of every command line, for all files that there may be. -/
theorem exitStatus_of_commandLine (arguments : List String) (read : FileReader) :
    StatusRules arguments read := by
  obtain ⟨hlost, hfailed, hfine⟩ := (Command.ofArguments arguments).1.status_perform_iff read
  refine ⟨hlost, hfailed, hfine, fun o c text hcommand hloads hkind => ?_, fun husage => ?_⟩
  · rintro hstatus
    have hloses := hlost.mp hstatus
    rw [hcommand] at hloses
    obtain ⟨hloads', hloses⟩ := hloses
    obtain ⟨rfl, -⟩ := hloads.unique hloads'
    exact hkind hloses.1
  · refine hfine.mpr ?_
    rw [Command.ofArguments_of_isUsageError husage]
    exact ⟨nofun, nofun⟩

/-- A run without a script is a usage error, and ends with the status of a run that went well. -/
theorem exitStatus_of_usage_error :
    IsUsageError ["codestep", "run"] ∧
      (commandLine ["codestep", "run"] fun _ => .error .notFound).errors =
        "Error: 'run' command requires a script path\n" ∧
      (commandLine ["codestep", "run"] fun _ => .error .notFound).status ≠ 1 := by
  refine ⟨.inl ⟨.inl rfl, rfl⟩, by decide +kernel, by decide +kernel⟩

end StepScript
