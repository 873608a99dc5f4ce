import StepScript.Yaml.Flaw
set_option autoImplicit false

/-!
# YAML: tokens

The lexical elements of a document.  Block collections have tokens for their beginning and their
end, which stand for changes of the indentation.  Where the text cannot be read on, a last token
holds the flaw.
-/

namespace StepScript.Yaml

/-- How a scalar is written. -/
inductive Style where
  | plain
  | singleQuoted
  | doubleQuoted
  | literal
  | folded
  deriving DecidableEq, Repr

/-- Kinds of tokens. -/
inductive TokenKind where
  | streamEnd
  | version (major minor : Nat)
  | tagHandle (handle : String) (expansion : List UInt8)
  | documentStart
  | documentEnd
  | blockListStart
  | blockRecordStart
  | blockEnd
  | flowListStart
  | flowListEnd
  | flowRecordStart
  | flowRecordEnd
  | item
  | comma
  | key
  | value
  | alias (name : String)
  | anchor (name : String)
  | tag (handle : String) (suffix : List UInt8)
  | scalar (style : Style) (text : String)
  /-- The end of what can be read. -/
  | flawed (flaw : Flaw)
  deriving DecidableEq, Repr

/-- A token, the place where it begins and the place after it. -/
structure Token where
  kind : TokenKind
  start : Mark
  stop : Mark
  deriving DecidableEq, Repr

end StepScript.Yaml
