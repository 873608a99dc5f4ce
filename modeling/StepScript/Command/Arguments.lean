import StepScript.Config.Basic
set_option autoImplicit false

/-!
# Commands: arguments

The first argument names the program, the second one the command.  Options of a run may come in any
order; the last one of a kind counts, and what is no option is gone over.  An option with a value
always takes the argument after it, even one that looks like an option.
-/

namespace StepScript

/-- What a run needs. -/
structure RunOptions where
  script : String
  /-- Kind in place of the configuration's own. -/
  kind : Option Kind
  /-- Path of the configuration. -/
  config : Option String
  /-- Seed in place of the configuration's own. -/
  seed : Option UInt64
  /-- How many times as fast as usual. -/
  speed : Float
  /-- Whether every pause is skipped. -/
  instant : Bool
  verbose : Bool
  deriving DecidableEq, Repr

namespace RunOptions

/-- A run of a script without options. -/
def ofScript (script : String) : RunOptions := ⟨script, none, none, none, 1.0, false, false⟩

end RunOptions

/-- The commands. -/
inductive Command where
  | run (options : RunOptions)
  | check (script : String) (kind : Kind)
  | help
  | version
  deriving DecidableEq, Repr

/-- A natural number of 64 bits, with an optional plus sign. -/
def readSeed? (text : String) : Option UInt64 :=
  let digits :=
    match text.toList with
    | '+' :: digits => digits
    | digits => digits
  let value := digitsValue digits
  if digits.isEmpty || !digits.all isDigit || UInt64.size ≤ value then none
  else some (UInt64.ofNat value)

/-- A speed: a positive finite number. -/
def readSpeed? (text : String) : Option Float :=
  (readFloat? text.toList).filter fun x => x.isFinite && 0.0 < x

/-- The warning about a kind that does not exist. -/
def unknownKindWarning (name : String) : String :=
  "Warning: unknown simulator '" ++ name ++ "' (expected turtle, game or led)"

/-- Reads the name of a kind; one that does not exist gives a warning. -/
def readKind (name : String) : Option Kind × List String :=
  match Kind.ofName? name with
  | some kind => (some kind, [])
  | none => (none, [unknownKindWarning name])

namespace RunOptions

/-- Takes the options of a run in order.  Gives the warnings, too. -/
def take (o : RunOptions) : List String → RunOptions × List String
  | [] => (o, [])
  | "--sim" :: name :: rest =>
      let (kind, warnings) := readKind name
      let (o, more) := take { o with kind := kind } rest
      (o, warnings ++ more)
  | ["--sim"] => ({ o with kind := none }, [])
  | "--config" :: path :: rest => take { o with config := some path } rest
  | ["--config"] => ({ o with config := none }, [])
  | "--seed" :: seed :: rest => take { o with seed := readSeed? seed } rest
  | ["--seed"] => ({ o with seed := none }, [])
  | "--speed" :: speed :: rest =>
      match readSpeed? speed with
      | some speed => take { o with speed := speed } rest
      | none =>
          let (o, more) := take o rest
          (o, "Warning: --speed expects a positive number" :: more)
  | ["--speed"] => (o, ["Warning: --speed expects a positive number"])
  | "--instant" :: rest => take { o with instant := true } rest
  | "-v" :: rest => take { o with verbose := true } rest
  | "--verbose" :: rest => take { o with verbose := true } rest
  | _ :: rest => take o rest

end RunOptions

namespace Command

/-- Reads the arguments after `run`. -/
def readRun : List String → Command × List String
  | [] => (.help, ["Error: 'run' command requires a script path"])
  | script :: rest =>
      let (o, warnings) := (RunOptions.ofScript script).take rest
      (.run o, warnings)

/-- Reads the arguments after `check`.  The kind has to come right after the script. -/
def readCheck : List String → Command × List String
  | [] => (.help, ["Error: 'check' command requires a script path"])
  | script :: "--sim" :: name :: _ =>
      let (kind, warnings) := readKind name
      (.check script (kind.getD .turtle), warnings)
  | script :: _ => (.check script .turtle, [])

/-- Reads all arguments, the name of the program included.  Gives the warnings, line by line,
too. -/
def ofArguments : List String → Command × List String
  | [] => (.help, [])
  | [_] => (.help, [])
  | _ :: name :: rest =>
      if name = "run" then readRun rest
      else if name = "check" then readCheck rest
      else if name = "-h" || name = "--help" || name = "help" then (.help, [])
      else if name = "-V" || name = "--version" || name = "version" then (.version, [])
      else (.help, ["Unknown command: " ++ name])

end Command

end StepScript
