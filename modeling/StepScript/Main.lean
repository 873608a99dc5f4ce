import StepScript.Command.Perform
set_option autoImplicit false

/-!
# The program

Reads the files that the arguments name and performs the command.  A run that is not instant is
shown as it goes: after each advance the terminal's text is written and the pause is slept through.
-/

namespace StepScript

/-- Number of a system error.  Opening a file gives it negated, reading one as it is. -/
def systemErrorNumber (code : UInt32) : UInt32 := min code (0 - code)

/-- Why the system could not read a file. -/
def ReadFault.ofSystem (e : IO.Error) : ReadFault :=
  match e with
  | .noFileOrDirectory .. => .notFound
  | .inappropriateType _ code _ =>
      if systemErrorNumber code = 20 then .notDirectory
      else if systemErrorNumber code = 21 then .isDirectory
      else .other (toString e)
  | .invalidArgument _ code _ =>
      if systemErrorNumber code = 36 then .nameTooLong else .other (toString e)
  | e => .other (toString e)

namespace Program

/-- Reads a file of the system as text. -/
def readText (path : String) : IO (Except ReadFault String) := do
  if path.contains '\x00' then return .error .nulInName
  match ← (IO.FS.readBinFile path).toBaseIO with
  | .error e => return .error (.ofSystem e)
  | .ok bytes =>
      match String.fromUTF8? bytes with
      | none => return .error .notUtf8
      | some text => return .ok text

/-- Reads several files of the system; no others are known. -/
def readAll (paths : List String) : IO FileReader := do
  let files ← paths.mapM fun path => do return (path, ← readText path)
  return fun path => ((files.find? fun file => file.1 == path).map Prod.snd).getD (.error .notFound)

/-- Writes what a terminal has taken in; the terminal is left with nothing written. -/
def writeOut (t : Terminal) : IO Terminal := do
  let output ← IO.getStdout
  output.putStr t.sink.text
  output.flush
  return { t with sink := .written "" }

/-- Longest sleep that is asked of the system at once, in milliseconds. -/
def longestSleep : Nat := Nat.pow 2 31

/-- Sleeps, in whole milliseconds rounded up. -/
def sleep (d : Duration) : IO Unit := do
  let ms := (d.nanos + 999999) / 1000000
  for _ in [0 : ms / longestSleep] do
    IO.sleep (UInt32.ofNat longestSleep)
  if ms % longestSleep != 0 then IO.sleep (UInt32.ofNat (ms % longestSleep))

/-- Takes a session to its end, at most so many advances away, with all its pauses. -/
def playOut {W : Type} [World W] [Drawn W] (tempo : Tempo) :
    Nat → Simulator W → Terminal → IO (Option Outcome)
  | 0, _, _ => return none
  | fuel + 1, s, t => do
      let p := s.advance t
      let t ← writeOut p.view
      match p.step with
      | .pause d =>
          sleep (tempo.scaled d)
          playOut tempo fuel p.simulator t
      | .finished o => return some o
      | .idle => return none

/-- Runs a text to its end with all its pauses. -/
def playText {W : Type} [World W] [Drawn W] (tempo : Tempo) (text : String) (s : Simulator W)
    (t : Terminal) : IO (Option Outcome) := do
  let t ← writeOut t
  match Simulator.start text s with
  | (true, s) => playOut tempo s.stepBudget s t
  | (false, _) => return none

/-- Runs a script with all its pauses and gives the outcome. -/
def play (tempo : Tempo) (p : Preparation) : IO (Option Outcome) :=
  let stage := p.config.stage (Config.openingScreen p.text (.written p.opening))
  playText tempo p.text stage.simulator stage.view

/-- Writes a report and gives its status. -/
def publish (r : Report) : IO UInt32 := do
  IO.print r.output
  IO.eprint r.errors
  return r.status

end Program

end StepScript

open StepScript Program

/-- Performs the command that the arguments name; its exit status is that of the program. -/
def main (arguments : List String) : IO UInt32 := do
  let (command, warnings) := Command.ofArguments ("codestep" :: arguments)
  for warning in warnings do
    IO.eprintln warning
  let read ← readAll command.paths
  match command with
  | .run o =>
      if o.instant then publish (command.perform read)
      else
        match o.prepare read with
        | .error report => publish report
        | .ok p =>
            let outcome ← play (.ofSpeed o.speed) p
            IO.print (closingLine outcome)
            return exitStatus outcome
  | command => publish (command.perform read)
