import StepScript.Yaml.Node
import StepScript.Number.Layout
import StepScript.Text.Quoted
set_option autoImplicit false

/-!
# YAML: what a scalar is

A plain scalar is null, a Boolean, an integer, a double or a text by its spelling; a tag can say
which one is meant.  Digits after a leading zero are no number.  Integers may be hexadecimal, octal
or binary.
-/

namespace StepScript.Yaml

/-- Spellings of null. -/
def isNull (text : String) : Bool := ["null", "Null", "NULL", "~"].contains text

/-- Spellings of the Booleans. -/
def readBool? (text : String) : Option Bool :=
  if ["true", "True", "TRUE"].contains text then some true
  else if ["false", "False", "FALSE"].contains text then some false
  else none

/-- Value of a run of digits in a base, if all characters are digits of it and there is one. -/
def readDigits? (base : Nat) (cs : List Char) : Option Nat :=
  let value (c : Char) : Nat := if isHexDigit c then hexDigitValue c else base
  if cs.isEmpty || cs.any (fun c => base ≤ value c) then none
  else some (cs.foldl (fun n c => base * n + value c) 0)

/-- Goes over an optional plus sign. -/
def dropPlus : List Char → List Char
  | '+' :: rest => rest
  | cs => cs

/-- Whether a sign is next. -/
def atSign : List Char → Bool
  | '+' :: _ => true
  | '-' :: _ => true
  | _ => false

/-- Whether a text is digits after a leading zero. -/
def isZeroPadded (cs : List Char) : Bool :=
  match (splitSign cs).2 with
  | '0' :: d :: rest => isDigit d && rest.all isDigit
  | _ => false

/-- The base that a mark after the sign chooses, and the text after the mark. -/
def baseMark? : List Char → Option (Nat × List Char)
  | '0' :: 'x' :: rest => some (16, rest)
  | '0' :: 'o' :: rest => some (8, rest)
  | '0' :: 'b' :: rest => some (2, rest)
  | _ => none

/-- Reads a natural number up to a limit, with an optional plus sign. -/
def readNat? (limit : Nat) (cs : List Char) : Option Nat :=
  let rest := dropPlus cs
  match baseMark? rest with
  | some (base, digits) => (readDigits? base digits).filter (· ≤ limit)
  | none =>
      if atSign rest || isZeroPadded cs then none
      else (readDigits? 10 rest).filter (· ≤ limit)

/-- Reads a negative number down to `-limit`. -/
def readNegative? (limit : Nat) (cs : List Char) : Option Int :=
  let magnitude :=
    match cs with
    | '-' :: rest =>
        match baseMark? rest with
        | some (base, digits) => readDigits? base digits
        | none => if isZeroPadded cs then none else readDigits? 10 rest
    | _ => none
  (magnitude.filter (· ≤ limit)).map fun n => -(n : Int)

/-- Reads a double: infinity and not a number after a point, or a decimal literal with a finite
value. -/
def readDouble? (text : String) : Option Float :=
  let cs := text.toList
  let rest := dropPlus cs
  let unsigned := String.ofList rest
  if cs.length != rest.length && atSign rest then none
  else if [".inf", ".Inf", ".INF"].contains unsigned then some (1.0 / 0.0)
  else if ["-.inf", "-.Inf", "-.INF"].contains text then some (-1.0 / 0.0)
  else if [".nan", ".NaN", ".NAN"].contains text then some (0.0 / 0.0)
  else (readFloat? rest).filter Float.isFinite

/-- What a node turned out to be, for a message. -/
inductive Found where
  | null
  | bool (b : Bool)
  | integer (n : Int)
  /-- An integer of more than 64 bits, with or without a sign. -/
  | wideInteger (n : Int) (signed : Bool)
  | double (x : Float)
  | text (s : String)
  | list
  | record
  deriving Repr

namespace Found

/-- What was found, in words. -/
def describe : Found → String
  | .null => "unit value"
  | .bool b => "boolean \x60" ++ (if b then "true" else "false") ++ "\x60"
  | .integer n => "integer \x60" ++ toString n ++ "\x60"
  | .wideInteger n signed =>
      "integer \x60" ++ toString n ++ "\x60 as " ++ (if signed then "i128" else "u128")
  | .double x => "floating point \x60" ++ Layout.withPoint x ++ "\x60"
  | .text s => "string " ++ quoted s
  | .list => "sequence"
  | .record => "map"

/-- The integer that a text spells: of 64 bits if it fits, else of 128. -/
def ofInteger? (cs : List Char) : Option Found :=
  match readNat? (UInt64.size - 1) cs, readNegative? (Nat.pow 2 63) cs with
  | some n, _ => some (.integer n)
  | none, some n => some (.integer n)
  | none, none =>
      match readNat? (Nat.pow 2 128 - 1) cs, readNegative? (Nat.pow 2 127) cs with
      | some n, _ => some (.wideInteger n false)
      | none, some n => some (.wideInteger n true)
      | none, none => none

/-- What a plain scalar without a tag is. -/
def ofPlain (text : String) : Found :=
  if text.isEmpty || isNull text then .null
  else
    match readBool? text with
    | some b => .bool b
    | none =>
        match ofInteger? text.toList with
        | some found => found
        | none =>
            if isZeroPadded text.toList then .text text
            else
              match readDouble? text with
              | some x => .double x
              | none => .text text

end Found

/-- A mismatch between what was found and what was expected. -/
inductive Mismatch where
  /-- A value of another type. -/
  | type (found : Found)
  /-- A text that its tag does not fit, with what the tag asks for. -/
  | tagged (text : String) (expected : String)
  deriving Repr

/-- What a scalar is, given its tag and its style. -/
def Mismatch.ofScalar (tag : Option Tag) (style : Style) (text : String) : Mismatch :=
  match tag with
  | none => .type (if style = .plain then .ofPlain text else .text text)
  | some tag =>
      if tag = Tag.core "bool" then
        match readBool? text with
        | some b => .type (.bool b)
        | none => .tagged text "a boolean"
      else if tag = Tag.core "int" then
        match Found.ofInteger? text.toList with
        | some found => .type found
        | none => .tagged text "an integer"
      else if tag = Tag.core "float" then
        match readDouble? text with
        | some x => .type (.double x)
        | none => .tagged text "a float"
      else if tag = Tag.core "null" then
        if isNull text then .type .null else .tagged text "null"
      else if tag.isLocal && style = .plain then .type (.ofPlain text)
      else .type (.text text)

/-- What a node is. -/
def Mismatch.ofNode : Node → Mismatch
  | .scalar _ _ tag style text => .ofScalar tag style text
  | .list .. => .type .list
  | .record .. => .type .record
  | .alias .. => .type .null
  | .cut _ => .type .null

end StepScript.Yaml
