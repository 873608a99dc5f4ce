import StepScript.Yaml.Token
import StepScript.Script.Operand
set_option autoImplicit false

/-!
# YAML: reading scalars

Plain and quoted scalars may run over several lines.  The gap between two pieces of content, blanks
and line breaks, is folded: blanks alone are kept; one line break becomes a space; of several, all
but the first are kept.  A block scalar keeps the lines of its indentation, literally or folded.
-/

namespace StepScript.Yaml

/-- Blanks and line breaks between two pieces of content. -/
structure Gap where
  /-- Blanks before the first line break. -/
  blanks : List Char
  /-- Content of the first line break. -/
  first : List Char
  /-- Content of the other line breaks. -/
  others : List Char
  /-- Whether there is a line break. -/
  broken : Bool
  deriving DecidableEq, Repr

namespace Gap

/-- No gap. -/
def empty : Gap := ⟨[], [], [], false⟩

/-- The gap that begins after an escaped line break. -/
def escaped : Gap := ⟨[], [], [], true⟩

/-- A gap as content. -/
def folded (g : Gap) : List Char :=
  if g.broken then
    if g.first = ['\n'] then (if g.others.isEmpty then [' '] else g.others)
    else g.first ++ g.others
  else g.blanks

/-- A gap with one more blank; blanks after a line break are dropped. -/
def addBlank (g : Gap) (c : Char) : Gap :=
  if g.broken then g else { g with blanks := g.blanks ++ [c] }

/-- A gap with one more line break. -/
def addBreak (g : Gap) (content : List Char) : Gap :=
  if g.broken then { g with others := g.others ++ content }
  else { g with blanks := [], first := content, broken := true }

/-- Reads on to the end of the gap in a scalar that began at `start`.  After a line break no tab may
stand left of column `indent`. -/
def scan (start : Mark) (indent : Nat) : Nat → Gap → Cursor → Except Flaw (Gap × Cursor)
  | 0, g, c => .ok (g, c)
  | fuel + 1, g, c =>
      match c.peek? 0 with
      | none => .ok (g, c)
      | some x =>
          if isBlank x then
            if g.broken && c.mark.column < indent && x == '\t' then
              .error ⟨.tabInIndentation, c.mark, some (.plainScalar, start)⟩
            else scan start indent fuel (g.addBlank x) (c.skip 1)
          else if isBreak x then scan start indent fuel (g.addBreak c.nextBreakText) c.skipBreak
          else .ok (g, c)

end Gap

/-- Characters that end a plain scalar inside a flow collection. -/
def isFlowIndicator (c : Char) : Bool :=
  c == ',' || c == '[' || c == ']' || c == '\x7b' || c == '\x7d'

/-- A piece without blanks, as long as possible, of a plain scalar that began at `start`. -/
def plainPiece (start : Mark) (inFlow : Bool) : Nat → Cursor → Except Flaw (List Char × Cursor)
  | 0, c => .ok ([], c)
  | fuel + 1, c =>
      match c.peek? 0 with
      | none => .ok ([], c)
      | some x =>
          if isBlank x || isBreak x then .ok ([], c)
          else if inFlow && x == ':' &&
              (c.peek? 1).any (fun y => isFlowIndicator y || y == '?') then
            .error ⟨.colonInScalar, c.mark, some (.plainScalar, start)⟩
          else if (x == ':' && c.blankOrEnd 1) || (inFlow && isFlowIndicator x) then .ok ([], c)
          else
            match plainPiece start inFlow fuel (c.skip 1) with
            | .error e => .error e
            | .ok (piece, c) => .ok (x :: piece, c)

/-- What was read of a plain scalar: its content, the place after it, the gap after that and where
reading stopped. -/
structure PlainScalar where
  text : List Char
  stop : Mark
  gap : Gap
  cursor : Cursor

/-- Reads a plain scalar that began at `start`.  Outside flow collections a line left of column
`indent` ends it. -/
def plainScalar (start : Mark) (inFlow : Bool) (indent : Nat) :
    Nat → PlainScalar → Except Flaw PlainScalar
  | 0, p => .ok p
  | fuel + 1, p =>
      let c := p.cursor
      if c.atDocumentIndicator || c.at? 0 '#' then .ok p
      else
        match plainPiece start inFlow c.rest.length c with
        | .error e => .error e
        | .ok (piece, c) =>
            let p :=
              if piece.isEmpty then { p with cursor := c }
              else ⟨p.text ++ p.gap.folded ++ piece, c.mark, .empty, c⟩
            if c.atEnd || !c.blankOrEnd 0 then .ok p
            else
              match Gap.scan start indent c.rest.length p.gap c with
              | .error e => .error e
              | .ok (gap, c) =>
                  let p := { p with gap := gap, cursor := c }
                  if !inFlow && c.mark.column < indent then .ok p
                  else plainScalar start inFlow indent fuel p

/-- What a one-letter escape stands for. -/
def escapedChar? (c : Char) : Option Char :=
  match c with
  | '0' => some '\x00'
  | 'a' => some '\x07'
  | 'b' => some '\x08'
  | 't' => some '\t'
  | '\t' => some '\t'
  | 'n' => some '\n'
  | 'v' => some '\x0b'
  | 'f' => some '\x0c'
  | 'r' => some '\r'
  | 'e' => some '\x1b'
  | ' ' => some ' '
  | '"' => some '"'
  | '/' => some '/'
  | '\\' => some '\\'
  | 'N' => some (Char.ofNat 0x85)
  | '_' => some (Char.ofNat 0xA0)
  | 'L' => some (Char.ofNat 0x2028)
  | 'P' => some (Char.ofNat 0x2029)
  | _ => none

/-- Number of hexadecimal digits after the letter of an escape. -/
def escapeWidth? (c : Char) : Option Nat :=
  match c with
  | 'x' => some 2
  | 'u' => some 4
  | 'U' => some 8
  | _ => none

/-- Reads an escape, its backslash first, in a scalar that began at `start`. -/
def escapeSequence (start : Mark) (c : Cursor) : Except Flaw (Char × Cursor) :=
  let flaw (problem : Problem) (c : Cursor) : Flaw := ⟨problem, c.mark, some (.escape, start)⟩
  match c.peek? 1 with
  | none => .error (flaw .unknownEscape c)
  | some letter =>
      match escapedChar? letter, escapeWidth? letter with
      | some x, _ => .ok (x, c.skip 2)
      | none, some width =>
          let c := c.skip 2
          let digits := c.rest.take width
          let code := hexDigitsValue digits
          if digits.length < width || !digits.all isHexDigit then
            .error (flaw .noEscapedNumber c)
          else if 0x10FFFF < code || (0xD800 ≤ code && code ≤ 0xDFFF) then
            .error (flaw .noEscapedCharacter c)
          else .ok (Char.ofNat code, c.skip width)
      | none, none => .error (flaw .unknownEscape c)

/-- A piece without blanks of a quoted scalar that began at `start`; it also ends, with a gap begun,
at an escaped line break. -/
def quotedPiece (start : Mark) (single : Bool) :
    Nat → Cursor → Except Flaw (List Char × Gap × Cursor)
  | 0, c => .ok ([], .empty, c)
  | fuel + 1, c =>
      match c.peek? 0 with
      | none => .ok ([], .empty, c)
      | some x =>
          if isBlank x || isBreak x then .ok ([], .empty, c)
          else if single && x == '\'' then
            if c.at? 1 '\'' then
              (quotedPiece start single fuel (c.skip 2)).map fun (piece, gap, c) =>
                ('\'' :: piece, gap, c)
            else .ok ([], .empty, c)
          else if !single && x == '"' then .ok ([], .empty, c)
          else if !single && x == '\\' then
            if (c.peek? 1).any isBreak then .ok ([], .escaped, (c.skip 1).skipBreak)
            else
              match escapeSequence start c with
              | .error e => .error e
              | .ok (y, c) =>
                  (quotedPiece start single fuel c).map fun (piece, gap, c) =>
                    (y :: piece, gap, c)
          else
            (quotedPiece start single fuel (c.skip 1)).map fun (piece, gap, c) =>
              (x :: piece, gap, c)

/-- Reads a quoted scalar that began at `start`, from after its opening quote to after its closing
quote. -/
def quotedScalar (start : Mark) (single : Bool) :
    Nat → List Char → Cursor → Except Flaw (List Char × Cursor)
  | 0, _, c => .error ⟨.openScalar, c.mark, some (.quotedScalar, start)⟩
  | fuel + 1, text, c =>
      if c.atDocumentIndicator then
        .error ⟨.documentInScalar, c.mark, some (.quotedScalar, start)⟩
      else if c.atEnd then .error ⟨.openScalar, c.mark, some (.quotedScalar, start)⟩
      else
        match quotedPiece start single c.rest.length c with
        | .error e => .error e
        | .ok (piece, gap, c) =>
            let text := text ++ piece
            if c.at? 0 (if single then '\'' else '"') then .ok (text, c.skip 1)
            else
              match Gap.scan start 0 c.rest.length gap c with
              | .error e => .error e
              | .ok (gap, c) => quotedScalar start single fuel (text ++ gap.folded) c

/-- What becomes of the line breaks at the end of a block scalar. -/
inductive Chomping where
  | strip
  | clip
  | keep
  deriving DecidableEq, Repr

/-- The header of a block scalar that began at `start`: its chomping and its indentation, zero when
it is to be found. -/
def blockHeader (start : Mark) (c : Cursor) : Except Flaw (Chomping × Nat × Cursor) :=
  let chomping? (c : Cursor) : Option Chomping :=
    if c.at? 0 '+' then some .keep else if c.at? 0 '-' then some .strip else none
  let increment? (c : Cursor) : Option Nat :=
    match c.peek? 0 with
    | none => none
    | some x => if isDigit x then some (digitValue x) else none
  let zero (c : Cursor) : Flaw := ⟨.zeroIndentation, c.mark, some (.blockScalar, start)⟩
  match chomping? c with
  | some chomping =>
      let c := c.skip 1
      match increment? c with
      | none => .ok (chomping, 0, c)
      | some 0 => .error (zero c)
      | some n => .ok (chomping, n, c.skip 1)
  | none =>
      match increment? c with
      | none => .ok (.clip, 0, c)
      | some 0 => .error (zero c)
      | some n =>
          let c := c.skip 1
          match chomping? c with
          | none => .ok (.clip, n, c)
          | some chomping => .ok (chomping, n, c.skip 1)

/-- Goes over the indentation and over empty lines of a block scalar that began at `start`.  Gives
the line breaks, the deepest column seen and the place after the last break. -/
def blockBreaks (start : Mark) (indent : Nat) : Nat → List Char → Nat → Mark → Cursor →
    Except Flaw (List Char × Nat × Mark × Cursor)
  | 0, breaks, deepest, stop, c => .ok (breaks, deepest, stop, c)
  | fuel + 1, breaks, deepest, stop, c =>
      let spaces := (c.rest.takeWhile (· == ' ')).length
      let c := c.skip (if indent = 0 then spaces else min spaces (indent - c.mark.column))
      let deepest := max deepest c.mark.column
      if (indent = 0 || c.mark.column < indent) && c.at? 0 '\t' then
        .error ⟨.tabForSpace, c.mark, some (.blockScalar, start)⟩
      else if !c.atEnd && c.breakOrEnd then
        let next := c.skipBreak
        blockBreaks start indent fuel (breaks ++ c.nextBreakText) deepest next.mark next
      else .ok (breaks, deepest, stop, c)

/-- What was read of a block scalar. -/
structure BlockScalar where
  text : List Char
  /-- Content of the line break after the last line. -/
  lineBreak : List Char
  /-- Content of the empty lines after it. -/
  emptyLines : List Char
  /-- Whether the last line began with a blank. -/
  indented : Bool
  stop : Mark
  cursor : Cursor

/-- Reads the lines of a block scalar that began at `start`. -/
def blockLines (start : Mark) (isFolded : Bool) (indent : Nat) :
    Nat → BlockScalar → Except Flaw BlockScalar
  | 0, b => .ok b
  | fuel + 1, b =>
      let c := b.cursor
      if c.mark.column != indent || c.atEnd then .ok b
      else
        let indented := (c.peek? 0).any isBlank
        let joint :=
          if isFolded && b.lineBreak = ['\n'] && !b.indented && !indented then
            if b.emptyLines.isEmpty then [' '] else b.emptyLines
          else b.lineBreak ++ b.emptyLines
        let (line, c) := c.span fun _ => true
        let lineBreak := c.nextBreakText
        let c := c.skipBreak
        match blockBreaks start indent c.rest.length.succ [] 0 c.mark c with
        | .error e => .error e
        | .ok (breaks, _, stop, c) =>
            blockLines start isFolded indent fuel
              ⟨b.text ++ joint ++ line, lineBreak, breaks, indented, stop, c⟩

/-- Reads a block scalar, its indicator first, inside a block of column `parent` (`-1` outside
all). -/
def blockScalar (isFolded : Bool) (parent : Int) (c : Cursor) :
    Except Flaw (List Char × Mark × Cursor) :=
  let start := c.mark
  match blockHeader start (c.skip 1) with
  | .error e => .error e
  | .ok (chomping, increment, c) =>
      let c := c.skipBlanks.skipComment
      if !c.breakOrEnd then .error ⟨.noCommentOrBreak, c.mark, some (.blockScalar, start)⟩
      else
        let c := c.skipBreak
        let given := if increment = 0 then 0 else (max parent 0).toNat + increment
        match blockBreaks start given c.rest.length.succ [] 0 c.mark c with
        | .error e => .error e
        | .ok (breaks, deepest, stop, c) =>
            let indent := if given = 0 then max (max deepest (parent + 1).toNat) 1 else given
            let fresh := ⟨[], [], breaks, false, stop, c⟩
            match blockLines start isFolded indent c.rest.length.succ fresh with
            | .error e => .error e
            | .ok b =>
                let tail :=
                  match chomping with
                  | .strip => []
                  | .clip => b.lineBreak
                  | .keep => b.lineBreak ++ b.emptyLines
                .ok (b.text ++ tail, b.stop, b.cursor)

end StepScript.Yaml
