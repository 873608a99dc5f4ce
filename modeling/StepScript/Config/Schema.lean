import StepScript.Config.Basic
import StepScript.Yaml.Resolve
set_option autoImplicit false

/-!
# Configuration: reading a document

A configuration is read from a YAML document.  Every field is optional but those of the pacing
section.  The top level knows no other fields; sections ignore them.  A fault names the field it was
met at and the place in the text, each where there is one.  A document is read in order, so of a
value that does not fit and a flaw of the text the one that comes first counts.
-/

namespace StepScript.Yaml

/-- What is wrong about a document that is well formed. -/
inductive SchemaProblem where
  | wrongType (found : Found) (expected : String)
  | wrongValue (found : Found) (expected : String)
  | unknownVariant (name : String) (known : List String)
  | unknownField (name : String) (known : List String)
  | missingField (name : String)
  | duplicateField (name : String)
  deriving Repr

namespace SchemaProblem

/-- A name between accents. -/
def accented (name : String) : String := "\x60" ++ name ++ "\x60"

/-- The names that would have been known. -/
def oneOf (names : List String) : String := "one of " ++ ", ".intercalate (names.map accented)

/-- The problem in words. -/
def message : SchemaProblem → String
  | .wrongType found expected => "invalid type: " ++ found.describe ++ ", expected " ++ expected
  | .wrongValue found expected => "invalid value: " ++ found.describe ++ ", expected " ++ expected
  | .unknownVariant name known =>
      "unknown variant " ++ accented name ++ ", expected " ++ oneOf known
  | .unknownField name known => "unknown field " ++ accented name ++ ", expected " ++ oneOf known
  | .missingField name => "missing field " ++ accented name
  | .duplicateField name => "duplicate field " ++ accented name

/-- A node that is not what was expected. -/
def ofNode (n : Node) (expected : String) : SchemaProblem :=
  match Mismatch.ofNode n with
  | .type found => .wrongType found expected
  | .tagged text wanted => .wrongValue (.text text) wanted

end SchemaProblem

/-- A problem, the field at which it was met and its place in the text. -/
structure SchemaFault where
  problem : SchemaProblem
  path : List String
  mark : Mark
  deriving Repr

namespace SchemaFault

/-- The fault in words. -/
def message (f : SchemaFault) : String :=
  (if f.path.isEmpty then "" else ".".intercalate f.path ++ ": ") ++ f.problem.message ++
    f.mark.place

end SchemaFault

/-- Why nothing could be read from a text. -/
inductive Fault where
  /-- The text is no document. -/
  | illFormed (flaw : Flaw)
  /-- The document does not fit. -/
  | schema (fault : SchemaFault)
  /-- There is more than one document. -/
  | severalDocuments
  deriving Repr

namespace Fault

/-- The fault in words. -/
def message : Fault → String
  | .illFormed flaw => flaw.text
  | .schema fault => fault.message
  | .severalDocuments =>
      "deserializing from YAML containing more than one document is not supported"

end Fault

/-- Reads something from a node at a path. -/
abbrev Reader (α : Type) : Type := Document → List String → Node → Except Fault α

namespace Reader

/-- A problem at a path and a place. -/
def fail {α : Type} (problem : SchemaProblem) (path : List String) (mark : Mark) :
    Except Fault α :=
  .error (.schema ⟨problem, path, mark⟩)

/-- The fault of a node that is not what was expected; of a cut node, its flaw. -/
def unexpected {α : Type} (path : List String) (n : Node) (expected : String) : Except Fault α :=
  match n with
  | .cut flaw => .error (.illFormed flaw)
  | n => fail (.ofNode n expected) path n.mark

/-- Goes over a node whose content does not matter. -/
def ignore (n : Node) : Except Fault Unit :=
  match n.flaw? with
  | some flaw => .error (.illFormed flaw)
  | none => .ok ()

/-- A text: any scalar, as it is written. -/
def text (expected : String) : Reader String := fun d path n =>
  match d.resolve n with
  | .scalar _ _ _ _ text => .ok text
  | n => unexpected path n expected

/-- Whether a scalar may be a number: a plain one, or a literal block with the tag of the type. -/
def mayBeNumber (style : Style) (tag : Option Tag) (name : String) : Bool :=
  style = .plain || (style = .literal && tag == some (Tag.core name))

/-- A natural number of 64 bits. -/
def word64 (expected : String) : Reader Nat := fun d path n =>
  match d.resolve n with
  | .scalar mark anchor tag style text =>
      let found : Node := .scalar mark anchor tag style text
      if mayBeNumber style tag "int" then
        match readNat? (UInt64.size - 1) text.toList with
        | some k => .ok k
        | none => unexpected path found expected
      else unexpected path found expected
  | n => unexpected path n expected

/-- A natural number of 64 bits as such. -/
def uint64 : Reader UInt64 := fun d path n => (word64 "u64" d path n).map UInt64.ofNat

/-- A natural number of 32 bits. -/
def uint32 : Reader UInt32 := fun d path n =>
  match word64 "u32" d path n with
  | .error e => .error e
  | .ok k =>
      if k < UInt32.size then .ok (UInt32.ofNat k)
      else fail (.wrongValue (.integer k) "u32") path (d.resolve n).mark

/-- A double. -/
def double : Reader Float := fun d path n =>
  match d.resolve n with
  | .scalar mark anchor tag style text =>
      let found : Node := .scalar mark anchor tag style text
      if mayBeNumber style tag "float" then
        match readDouble? text with
        | some x => .ok x
        | none => unexpected path found "f64"
      else unexpected path found "f64"
  | n => unexpected path n "f64"

/-- The place and the entries of a record.  A plain scalar without content is an empty record. -/
def entries (expected : String) : Reader (Mark × List (Node × Node)) := fun d path n =>
  match d.resolve n with
  | .record mark _ _ entries => .ok (mark, entries)
  | .scalar mark anchor tag style text =>
      if style = .plain && text.isEmpty then .ok (mark, [])
      else unexpected path (.scalar mark anchor tag style text) expected
  | n => unexpected path n expected

/-- How the fields of a record are read. -/
structure Fields (σ : Type) where
  known : List String
  /-- Whether other fields are a fault. -/
  strict : Bool
  /-- Takes the value of a known field into what was read so far. -/
  take : String → σ → Reader σ

/-- The part of a path that a key adds; an alias has no name of its own. -/
def pathPart : Node → String
  | .scalar _ _ _ _ text => text
  | _ => "?"

/-- Reads the entries of a record at `mark` in order.  Gives the names of the known fields met, the
last one first, and what was read. -/
def fold {σ : Type} (f : Fields σ) (d : Document) (path : List String) (mark : Mark) :
    List String → σ → List (Node × Node) → Except Fault (List String × σ)
  | seen, s, [] => .ok (seen, s)
  | seen, s, (key, value) :: rest =>
      match text "field identifier" d path key with
      | .error e => .error e
      | .ok name =>
          if f.known.contains name then
            if seen.contains name then fail (.duplicateField name) path mark
            else
              match f.take name s d (path ++ [pathPart key]) value with
              | .error e => .error e
              | .ok s => fold f d path mark (name :: seen) s rest
          else if f.strict then fail (.unknownField name f.known) path (d.resolve key).mark
          else
            match ignore value with
            | .error e => .error e
            | .ok () => fold f d path mark seen s rest

/-- Reads a record whose fields are all optional. -/
def record {σ : Type} (f : Fields σ) (expected : String) (init : σ) : Reader σ := fun d path n =>
  match entries expected d path n with
  | .error e => .error e
  | .ok (mark, es) => (fold f d path mark [] init es).map Prod.snd

/-- Reads a record whose fields all have to be there. -/
def wholeRecord {σ : Type} (f : Fields σ) (expected : String) (init : σ) : Reader σ :=
  fun d path n =>
    match entries expected d path n with
    | .error e => .error e
    | .ok (mark, es) =>
        match fold f d path mark [] init es with
        | .error e => .error e
        | .ok (seen, s) =>
            match f.known.find? fun name => !seen.contains name with
            | some name => fail (.missingField name) path mark
            | none => .ok s

end Reader

end StepScript.Yaml

namespace StepScript

open Yaml

namespace BoardSection

/-- Fields of the board section. -/
def fields : Reader.Fields BoardSection where
  known := ["grid_size", "epsilon"]
  strict := false
  take name b d path n :=
    if name = "grid_size" then (Reader.uint32 d path n).map fun size => { b with gridSize := size }
    else (Reader.double d path n).map fun epsilon => { b with epsilon := epsilon }

end BoardSection

namespace GameSection

/-- Fields of the game section. -/
def fields : Reader.Fields GameSection where
  known := ["win_radius"]
  strict := false
  take _ g d path n := (Reader.double d path n).map fun radius => { g with winRadius := radius }

end GameSection

namespace Pacing

/-- Names of the fields. -/
def fieldNames : List String :=
  ["settle_ms", "blank_ms", "idle_ms", "effect_ms", "error_ms", "tail_ms"]

/-- Sets a field by its name. -/
def setField (p : Pacing) (name : String) (ms : UInt64) : Pacing :=
  if name = "settle_ms" then { p with settle := ms }
  else if name = "blank_ms" then { p with blank := ms }
  else if name = "idle_ms" then { p with idle := ms }
  else if name = "effect_ms" then { p with effect := ms }
  else if name = "error_ms" then { p with error := ms }
  else if name = "tail_ms" then { p with tail := ms }
  else p

/-- Fields of the pacing section. -/
def fields : Reader.Fields Pacing where
  known := fieldNames
  strict := false
  take name p d path n := (Reader.uint64 d path n).map (p.setField name)

end Pacing

namespace Kind

/-- The names of the kinds. -/
def names : List String := ["turtle", "game", "led"]

/-- The kind of a name met at a path and a place. -/
def named (name : String) (path : List String) (mark : Mark) : Except Fault Kind :=
  match ofExactName? name with
  | some kind => .ok kind
  | none => Reader.fail (.unknownVariant name names) path mark

/-- Where an unknown kind that a tag names is reported: at an alias, if one stands for the node,
else at `outer`, the place of the record around it, since the tag is checked before the place of its
field is known. -/
def tagSite (outer : Mark) (path : List String) : Node → List String × Mark
  | .alias mark _ => (path, mark)
  | _ => (path.dropLast, outer)

/-- Reads a kind.  A local tag names it in place of the text, which has to be null then.  A kind
cannot be a list or a record. -/
def read (outer : Mark) : Reader Kind := fun d path n =>
  let site := tagSite outer path n
  let found := d.resolve n
  match found.tag?.bind Tag.localName?, found with
  | none, .scalar mark _ _ _ text => named text path mark
  | none, n => Reader.unexpected path n "a YAML tag starting with '!'"
  | some name, .scalar mark _ _ style text =>
      (named name site.1 site.2).bind fun kind =>
        if style = .plain && (text.isEmpty || isNull text) then .ok kind
        else Reader.fail (.wrongValue (.text text) "null") path mark
  | some name, n => (named name site.1 site.2).bind fun _ => Reader.unexpected path n "unit"

end Kind

namespace Config

/-- Reads the pacing section, which may be null.  A null tag on a text is a fault of the record
around it, at the place `outer`. -/
def readPacing (outer : Mark) : Reader (Option Pacing) := fun d path n =>
  let whole := Reader.wholeRecord Pacing.fields "struct PacingConfig" .instant d path n
  match d.resolve n with
  | .scalar _ _ tag style text =>
      if style != .plain then whole.map some
      else
        match tag with
        | none => if text.isEmpty || isNull text then .ok none else whole.map some
        | some tag =>
            if tag = Tag.core "null" then
              if isNull text then .ok none
              else Reader.fail (.wrongValue (.text text) "null") path.dropLast outer
            else whole.map some
  | _ => whole.map some

/-- Fields of a configuration; `outer` is its place. -/
def fields (outer : Mark) : Reader.Fields Config where
  known := ["schema_version", "kind", "seed", "board", "game", "pacing"]
  strict := true
  take name c d path n :=
    if name = "schema_version" then
      (Reader.text "a string" d path n).map fun version => { c with schemaVersion := version }
    else if name = "kind" then (Kind.read outer d path n).map fun kind => { c with kind := kind }
    else if name = "seed" then (Reader.uint64 d path n).map fun seed => { c with seed := seed }
    else if name = "board" then
      (Reader.record BoardSection.fields "struct BoardConfig" .standard d path n).map
        fun board => { c with board := board }
    else if name = "game" then
      (Reader.record GameSection.fields "struct GameConfig" .standard d path n).map
        fun game => { c with game := game }
    else (readPacing outer d path n).map fun pacing => { c with pacing := pacing }

/-- Reads a configuration from a document, with which the text has to end. -/
def ofDocument (d : Document) : Except Fault Config :=
  let outer := (d.resolve d.root).mark
  match Reader.record (fields outer) "struct SimConfig" .standard d [] d.root with
  | .error fault => .error fault
  | .ok c =>
      match d.flaw? with
      | some flaw => .error (.illFormed flaw)
      | none => if d.isFollowed then .error .severalDocuments else .ok c

end Config

end StepScript
