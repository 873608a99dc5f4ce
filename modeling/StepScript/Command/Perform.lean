import StepScript.Command.Arguments
import StepScript.Command.Check
import StepScript.Command.Simulate
import StepScript.Error
set_option autoImplicit false

/-!
# Commands: what they do

A command reads the files it names and gives an exit status and what it writes to both outputs.  A
run settles its configuration before it reads its script, and runs nothing when either cannot be
read.
-/

namespace StepScript

/-- Reads a file as text. -/
abbrev FileReader : Type := String → Except ReadFault String

/-- The version line. -/
def versionText : String := "codestep 0.1.0"

/-- The help, line by line. -/
def helpLines : List String :=
  [
    "codestep - step-by-step script simulators for the classroom",
    "",
    "USAGE:",
    "    codestep <COMMAND> [OPTIONS]",
    "",
    "COMMANDS:",
    "    run <script.txt>            Run a script",
    "        --sim <turtle|game|led> Simulator to run (default: from config, else turtle)",
    "        --config <file.yaml>    Load configuration",
    "        --seed <N>              Override the apple placement seed",
    "        --speed <X>             Pacing multiplier (2 = twice as fast)",
    "        --instant               Skip every pause",
    "        -v, --verbose           Enable verbose output",
    "",
    "    check <script.txt>          Decode a script without running it",
    "        --sim <turtle|game|led> Instruction set (default: turtle)",
    "",
    "    help                        Show this help message",
    "    version                     Show version information",
    "",
    "INSTRUCTIONS:",
    "    turtle, game   ANDA n | TRAS n | DIREITA graus | ESQUERDA graus",
    "    led            ACIONAR led 0|1 | ESPERAR segundos | LIMPAR",
    "",
    "EXIT STATUS:",
    "    0  run completed or game won",
    "    1  a line aborted the run, or the command failed",
    "    2  game lost",
    "",
    "EXAMPLES:",
    "    codestep run caminho.txt",
    "    codestep run maca.txt --sim game --seed 7",
    "    codestep run semaforo.txt --sim led --speed 4",
    "    RUST_LOG=debug codestep run caminho.txt --instant",
    ""]

/-- Exit status and both outputs of a command. -/
structure Report where
  status : UInt32
  output : String
  errors : String
  deriving DecidableEq, Repr

namespace RunOptions

/-- The configuration of a run: the file's, or that of the kind, with the overrides. -/
def settleConfig (o : RunOptions) (read : FileReader) : Except Error Config :=
  let base : Except Error Config :=
    match o.config with
    | none => .ok (.ofKind (o.kind.getD .turtle))
    | some path =>
        match read path with
        | .error fault => .error (.io fault)
        | .ok text => Config.ofYaml text
  base.map fun c => { c with kind := o.kind.getD c.kind, seed := o.seed.getD c.seed }

end RunOptions

/-- The message about a script that cannot be read. -/
def unreadableScript (path : String) (fault : ReadFault) : String :=
  "✗ Error reading " ++ path ++ ": " ++ fault.message ++ "\n"

/-- The line that closes a run. -/
def closingLine : Option Outcome → String
  | none => "Nothing to run.\n"
  | some o => o.summary ++ "\n"

/-- What a run starts from: its configuration, the text of its script, and what is written before
it. -/
structure Preparation where
  config : Config
  text : String
  opening : String
  deriving DecidableEq, Repr

namespace RunOptions

/-- Settles the configuration and reads the script, or reports what cannot be read. -/
def prepare (o : RunOptions) (read : FileReader) : Except Report Preparation :=
  match o.settleConfig read with
  | .error e => .error ⟨1, "", "Error: " ++ e.message ++ "\n"⟩
  | .ok c =>
      match read o.script with
      | .error fault => .error ⟨1, "", unreadableScript o.script fault⟩
      | .ok text => .ok ⟨c, text, if o.verbose then c.summary ++ "\n\n" else ""⟩

end RunOptions

namespace Command

/-- The files a command reads. -/
def paths : Command → List String
  | .run o => o.config.toList ++ [o.script]
  | .check script _ => [script]
  | .help => []
  | .version => []

/-- Runs a script with a terminal view; every pause passes at once. -/
def performRun (o : RunOptions) (read : FileReader) : Report :=
  match o.prepare read with
  | .error report => report
  | .ok p =>
      let done := simulate p.config p.text (.written p.opening) .start
      ⟨exitStatus done.outcome, done.terminal.sink.text ++ closingLine done.outcome, ""⟩

/-- Lists what the lines of a script will do. -/
def performCheck (script : String) (kind : Kind) (read : FileReader) : Report :=
  match read script with
  | .error fault => ⟨1, "", unreadableScript script fault⟩
  | .ok text =>
      ⟨0, "Checking " ++ script ++ " as " ++ kind.name ++ "\n\n" ++
        (CheckReport.build kind (Script.parse text)).text ++ "\n", ""⟩

/-- Performs a command. -/
def perform (c : Command) (read : FileReader) : Report :=
  match c with
  | .run o => performRun o read
  | .check script kind => performCheck script kind read
  | .help => ⟨0, String.join (helpLines.map (· ++ "\n")), ""⟩
  | .version => ⟨0, versionText ++ "\n", ""⟩

end Command

/-- The whole command line: reads the arguments, then performs the command. -/
def commandLine (arguments : List String) (read : FileReader) : Report :=
  let (command, warnings) := Command.ofArguments arguments
  let report := command.perform read
  { report with errors := String.join (warnings.map (· ++ "\n")) ++ report.errors }

end StepScript
