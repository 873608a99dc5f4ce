import StepScript.Json.Tree
import StepScript.Json.Run
import StepScript.Config.Schema
set_option autoImplicit false

/-!
# JSON: reading values of a type

A record is read from its members in any order, unknown ones ignored, or from a list of its fields
in order.  A variant without members is its name; among variants with members a tag names one.
Numbers are scaled: as many leading digits as fit 64 bits are taken as an integer, and one
multiplication or division by a power of ten follows.
-/

namespace StepScript

/-- Types whose values are read from JSON. -/
class FromJson (α : Type) where
  fromJson? : JsonTree → Option α

export FromJson (fromJson?)

/-! ## Numbers -/

namespace JsonNumber

/-- Largest integer of 64 bits. -/
def limit : Nat := UInt64.size - 1

/-- Takes digits into an integer as long as it fits 64 bits; gives the digits left over, too. -/
def accumulate : Nat → List Char → Nat × List Char
  | n, [] => (n, [])
  | n, c :: rest =>
      let next := 10 * n + digitValue c
      if limit < next then (n, c :: rest) else accumulate next rest

/-- The natural number that a number without sign, fraction and exponent writes, if it fits. -/
def nat? (n : JsonNumber) : Option Nat :=
  if n.negative || n.fraction.isSome || n.exponent.isSome then none
  else
    match accumulate 0 n.whole with
    | (value, []) => some value
    | _ => none

/-- `significand · 10 ^ exponent`, by one multiplication or division; a division by more than the
largest power of ten is done in parts.  Nothing when the value is out of range. -/
def scale? : Nat → Float → Int → Option Float
  | 0, f, _ => some f
  | fuel + 1, f, exponent =>
      if exponent.natAbs ≤ 308 then
        let power := Float.ofScientific 1 false exponent.natAbs
        if 0 ≤ exponent then
          let scaled := f * power
          if scaled.isInf then none else some scaled
        else some (f / power)
      else if f == 0.0 then some f
      else if 0 ≤ exponent then none
      else scale? fuel (f / Float.ofScientific 1 false 308) (exponent + 308)

/-- Cuts an integer at 32 bits with a sign. -/
def clamp32 (n : Int) : Int := max Int32.minValue.toInt (min n Int32.maxValue.toInt)

/-- The magnitude of a number. -/
def magnitude? (n : JsonNumber) : Option Float :=
  let (significand, left) := accumulate 0 n.whole
  let (significand, places) :=
    match n.fraction with
    | none => (significand, 0)
    | some digits =>
        let (significand, rest) := accumulate significand digits
        (significand, digits.length - rest.length)
  let base : Int := (left.length : Int) - (places : Int)
  let f := (UInt64.ofNat significand).toFloat
  match n.exponent with
  | none => scale? 8 f base
  | some (negative, digits) =>
      let shift : Int := digitsValue digits
      if Int32.maxValue.toInt < shift then
        if significand != 0 && !negative then none else some 0.0
      else scale? 8 f (clamp32 (if negative then base - shift else base + shift))

/-- The double that a number is read as. -/
def float? (n : JsonNumber) : Option Float :=
  n.magnitude?.map fun x => if n.negative then -x else x

end JsonNumber

instance : FromJson Float where
  fromJson?
    | .number n => n.float?
    | _ => none

instance : FromJson Nat where
  fromJson?
    | .number n => n.nat?
    | _ => none

instance : FromJson UInt64 where
  fromJson? t := (fromJson? t).map UInt64.ofNat

instance : FromJson UInt32 where
  fromJson? t := ((fromJson? t : Option Nat).filter (· < UInt32.size)).map UInt32.ofNat

instance : FromJson Bool where
  fromJson?
    | .bool b => some b
    | _ => none

instance : FromJson String where
  fromJson?
    | .text s => s
    | _ => none

instance {α : Type} [FromJson α] : FromJson (List α) where
  fromJson?
    | .list items => items.mapM fromJson?
    | _ => none

instance {α : Type} [FromJson α] : FromJson (Option α) where
  fromJson?
    | .null => some none
    | t => (fromJson? t).map some

/-! ## Records -/

namespace JsonTree

/-- The values of fields by name: each one at most once among the members of a record. -/
def membersByName (names : List String) (members : List (Option String × JsonTree)) :
    Option (List (Option JsonTree)) :=
  if members.any fun member => member.1.isNone then none
  else
    names.mapM fun name =>
      match members.filter fun member => member.1 == some name with
      | [] => some none
      | [member] => some (some member.2)
      | _ => none

/-- The values of fields: by name from a record, in order from a list that is not too long. -/
def fields? (names : List String) : JsonTree → Option (List (Option JsonTree))
  | .record members => membersByName names members
  | .list items =>
      if names.length < items.length then none
      else some (items.map some ++ List.replicate (names.length - items.length) none)
  | _ => none

/-- Whether a record has no members but those. -/
def hasOnly (names : List String) : JsonTree → Bool
  | .record members => members.all fun member => member.1.any names.contains
  | _ => true

end JsonTree

/-- The value of a field that has to be there. -/
def required {α : Type} [FromJson α] (field : Option JsonTree) : Option α := field.bind fromJson?

/-- The value of a field with a default. -/
def optional {α : Type} [FromJson α] (default : α) (field : Option JsonTree) : Option α :=
  match field with
  | none => some default
  | some t => fromJson? t

instance : FromJson Pose where
  fromJson? t := do
    match ← t.fields? ["x", "y", "heading"] with
    | [x, y, heading] => pure ⟨← required x, ← required y, ← required heading⟩
    | _ => none

instance : FromJson Square where
  fromJson? t := do
    match ← t.fields? ["x", "y"] with
    | [x, y] => pure ⟨← required x, ← required y⟩
    | _ => none

instance : FromJson Guard where
  fromJson? t := do
    match ← t.fields? ["grid_size", "epsilon"] with
    | [gridSize, epsilon] => pure ⟨← required gridSize, ← required epsilon⟩
    | _ => none

instance : FromJson Turtle where
  fromJson? t := do
    match ← t.fields? ["pose", "guard", "target", "win_radius"] with
    | [pose, guard, target, winRadius] =>
        pure ⟨← required pose, ← required guard, ← optional none target, ← required winRadius⟩
    | _ => none

instance : FromJson Panel where
  fromJson? t := do
    match ← t.fields? ["leds"] with
    | [leds] =>
        match (← required leds : List Bool) with
        | [yellow, green, red] => pure ⟨yellow, green, red⟩
        | _ => none
    | _ => none

instance : FromJson Line where
  fromJson? t := do
    match ← t.fields? ["source", "tokens"] with
    | [source, tokens] => pure ⟨← required source, ← required tokens⟩
    | _ => none

instance : FromJson Script where
  fromJson? t := do
    match ← t.fields? ["lines"] with
    | [lines] => pure ⟨← required lines⟩
    | _ => none

instance : FromJson Pacing where
  fromJson? t := do
    match ← t.fields? Pacing.fieldNames with
    | [settle, blank, idle, effect, error, tail] =>
        pure ⟨← required settle, ← required blank, ← required idle, ← required effect,
          ← required error, ← required tail⟩
    | _ => none

instance : FromJson BoardSection where
  fromJson? t := do
    match ← t.fields? ["grid_size", "epsilon"] with
    | [gridSize, epsilon] =>
        pure ⟨← optional BoardSection.standard.gridSize gridSize,
          ← optional BoardSection.standard.epsilon epsilon⟩
    | _ => none

instance : FromJson GameSection where
  fromJson? t := do
    match ← t.fields? ["win_radius"] with
    | [winRadius] => pure ⟨← optional GameSection.standard.winRadius winRadius⟩
    | _ => none

/-! ## Variants -/

namespace JsonTree

/-- The name of a variant without members: a text, or a record of one null member. -/
def variantName? : JsonTree → Option String
  | .text s => s
  | .record [(name, .null)] => name
  | _ => none

mutual

/-- Number of lists and records around the innermost value. -/
def depth : JsonTree → Nat
  | .list items => depthItems items + 1
  | .record members => depthMembers members + 1
  | _ => 0

/-- Greatest depth of several values. -/
def depthItems : List JsonTree → Nat
  | [] => 0
  | item :: items => max item.depth (depthItems items)

/-- Greatest depth of several members. -/
def depthMembers : List (Option String × JsonTree) → Nat
  | [] => 0
  | (_, value) :: members => max value.depth (depthMembers members)

end

mutual

/-- Whether every text is whole and every number in range. -/
def isReadable : JsonTree → Bool
  | .number n => n.nat?.isSome || n.float?.isSome
  | .text s => s.isSome
  | .list items => readableItems items
  | .record members => readableMembers members
  | _ => true

/-- Whether several values are readable. -/
def readableItems : List JsonTree → Bool
  | [] => true
  | item :: items => item.isReadable && readableItems items

/-- Whether several members are readable. -/
def readableMembers : List (Option String × JsonTree) → Bool
  | [] => true
  | (name, value) :: members => name.isSome && value.isReadable && readableMembers members

end

/-- Lists and records nested deeper than this are refused where everything has to be readable. -/
def deepest : Nat := 127

/-- Splits a tagged variant into its name and its members, as a record or as a list.  The tag stands
anywhere among the members of a record, or first in a list. -/
def tagged? (tag : String) (t : JsonTree) : Option (String × JsonTree) :=
  if deepest < t.depth || !t.isReadable then none
  else
    match t with
    | .record members =>
        match members.filter fun member => member.1 == some tag with
        | [(_, .text (some name))] =>
            some (name, .record (members.filter fun member => member.1 != some tag))
        | _ => none
    | .list (.text (some name) :: items) => some (name, .list items)
    | _ => none

/-- Whether nothing but ignored members is left of a variant. -/
def isBare : JsonTree → Bool
  | .record _ => true
  | .list items => items.isEmpty
  | _ => false

end JsonTree

instance : FromJson LampColor where
  fromJson? t := t.variantName?.bind fun name => LampColor.all.find? fun c => c.name == name

instance : FromJson Verdict where
  fromJson? t := t.variantName?.bind fun name =>
    [Verdict.win, Verdict.lose].find? fun v => v.name == name

instance : FromJson Kind where
  fromJson? t := t.variantName?.bind Kind.ofExactName?

instance : FromJson Outcome where
  fromJson? t := do
    let (name, rest) ← t.tagged? "outcome"
    if name = "aborted" then
      match ← rest.fields? ["line"] with
      | [line] => pure (.aborted (← required line))
      | _ => none
    else if rest.isBare then
      [Outcome.completed, .won, .lost, .cancelled].find? fun o => o.tag == name
    else none

instance : FromJson Notice where
  fromJson? t := do
    let (name, rest) ← t.tagged? "kind"
    if name = "invalid_move" then
      match ← rest.fields? ["line", "x", "y"] with
      | [line, x, y] => pure (.invalidMove (← required line) (← required x) (← required y))
      | _ => none
    else if name = "game_started" then
      match ← rest.fields? ["target"] with
      | [target] => pure (.gameStarted (← required target))
      | _ => none
    else if !rest.isBare then none
    else if name = "won" then pure .won
    else if name = "lost" then pure .lost
    else none

instance : FromJson Config where
  fromJson? t := do
    let names := ["schema_version", "kind", "seed", "board", "game", "pacing"]
    if !t.hasOnly names then none
    else
      let c := Config.standard
      match ← t.fields? names with
      | [version, kind, seed, board, game, pacing] =>
          pure ⟨← optional c.schemaVersion version, ← optional c.kind kind, ← optional c.seed seed,
            ← optional c.board board, ← optional c.game game, ← optional c.pacing pacing⟩
      | _ => none

/-! ## Writing the types that are only read back -/

instance : ToJson Line where
  toJson l := .record [("source", .text l.source), ("tokens", .list (l.tokens.map .text))]

instance : ToJson Script where
  toJson s := .record [("lines", .list (s.lines.map toJson))]

instance : ToJson Kind where
  toJson k := .text k.name

instance : ToJson Pacing where
  toJson p := .record (Pacing.fieldNames.zip (p.delays.map fun ms => .nat ms.toNat))

instance : ToJson BoardSection where
  toJson b := .record [("grid_size", toJson b.gridSize), ("epsilon", .float b.epsilon)]

instance : ToJson GameSection where
  toJson g := .record [("win_radius", .float g.winRadius)]

instance : ToJson Config where
  toJson c := .record
    [("schema_version", .text c.schemaVersion), ("kind", toJson c.kind),
      ("seed", .nat c.seed.toNat), ("board", toJson c.board), ("game", toJson c.game),
      ("pacing", (c.pacing.map toJson).getD .null)]

end StepScript
