import StepScript.Config.Schema
import StepScript.Config.Validation
import StepScript.Run.Notice
set_option autoImplicit false

/-!
# Errors

Every way in which something can fail, with its text.  Only an invalid move arises while a script
runs; the others belong to files and configurations.
-/

namespace StepScript

/-- Why a file could not be read as text. -/
inductive ReadFault where
  | notFound
  | isDirectory
  | notDirectory
  | nameTooLong
  | nulInName
  | notUtf8
  /-- Any other reason, in the words of the system. -/
  | other (message : String)
  deriving DecidableEq, Repr

namespace ReadFault

/-- The reason in words. -/
def message : ReadFault → String
  | .notFound => "No such file or directory (os error 2)"
  | .isDirectory => "Is a directory (os error 21)"
  | .notDirectory => "Not a directory (os error 20)"
  | .nameTooLong => "File name too long (os error 36)"
  | .nulInName => "file name contained an unexpected NUL byte"
  | .notUtf8 => "stream did not contain valid UTF-8"
  | .other message => message

end ReadFault

/-- Everything that can fail. -/
inductive Error where
  | invalidMove (e : InvalidMove)
  | config (message : String)
  /-- A configuration text that is not one YAML document, and the first fault met in it. -/
  | illFormed (fault : Yaml.Fault)
  /-- A configuration document that does not fit. -/
  | schema (fault : Yaml.Fault)
  | validation (vs : List Violation)
  | io (fault : ReadFault)
  | serialization (message : String)
  deriving Repr

namespace Violation

/-- A bound or a value in words: its name, and its text with the kind of value it is.  What is not a
finite number has no value. -/
def parameterText (name : String) (value : Json) : String :=
  let text := value.render
  Json.quote name ++ ": " ++
    match value with
    | .text _ => "String(" ++ text ++ ")"
    | _ => if text = "null" then "Null" else "Number(" ++ text ++ ")"

/-- A violation in words. -/
def message (v : Violation) : String :=
  v.field ++ ": Validation error: " ++ v.rule.code ++ " [\x7b" ++
    ", ".intercalate (v.parameters.map fun p => parameterText p.1 p.2) ++ "\x7d]"

end Violation

namespace Error

/-- The error in words. -/
def message : Error → String
  | .invalidMove e =>
      "invalid move: turtle would leave the board at (" ++ fixedPlaces 3 e.x ++ ", " ++
        fixedPlaces 3 e.y ++ ")"
  | .config message => "Configuration error: " ++ message
  | .illFormed fault => "YAML parsing error: " ++ fault.message
  | .schema fault => "YAML parsing error: " ++ fault.message
  | .validation vs => "Validation error: " ++ "\n".intercalate (vs.map Violation.message)
  | .io fault => "I/O error: " ++ fault.message
  | .serialization message => "Serialization error: " ++ message

/-- The error of a configuration that is not accepted. -/
def ofConfigFault : ConfigFault → Error
  | .violations vs => .validation vs
  | .winRadius radius gridSize =>
      .config ("win radius " ++ Layout.plain.write radius ++ " exceeds board size " ++
        toString gridSize.toNat)

end Error

/-- The notice for an error on a line; only an invalid move has a position. -/
def Notice.ofError (line : Nat) : Error → Notice
  | .invalidMove e => .ofInvalidMove line e
  | _ => .invalidMove line (0.0 / 0.0) (0.0 / 0.0)

namespace Config

/-- Reads a configuration from a text and checks it. -/
def ofYaml (text : String) : Except Error Config :=
  let document? := Yaml.documentOf text
  match (document?.map ofDocument).getD (.ok standard) with
  | .error fault =>
      .error (if document?.all Yaml.Document.isWhole then .schema fault else .illFormed fault)
  | .ok c =>
      match c.check with
      | .error fault => .error (.ofConfigFault fault)
      | .ok () => .ok c

end Config

end StepScript
