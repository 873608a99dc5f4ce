import StepScript.Number.Literal
set_option autoImplicit false

/-!
# YAML: places in a text

A cursor is the rest of a text together with its place: the number of octets before it, its line and
its column in characters, all counted from zero.  Five characters break lines; a carriage return
followed by a line feed is one break.
-/

namespace StepScript.Yaml

/-- Number of octets of some characters in UTF-8. -/
def octets (cs : List Char) : Nat := cs.foldl (fun n c => n + c.utf8Size) 0

/-- A place in a text. -/
structure Mark where
  /-- Octets of UTF-8 before it. -/
  index : Nat
  line : Nat
  column : Nat
  deriving DecidableEq, Repr, Inhabited

namespace Mark

/-- The first place. -/
def start : Mark := ⟨0, 0, 0⟩

/-- The place after some characters of the same line. -/
def forward (m : Mark) (cs : List Char) : Mark :=
  ⟨m.index + octets cs, m.line, m.column + cs.length⟩

/-- The place after a line break of so many octets. -/
def afterBreak (m : Mark) (octets : Nat) : Mark := ⟨m.index + octets, m.line + 1, 0⟩

/-- Whether a place is at the beginning of the first line. -/
def isFirst (m : Mark) : Bool := m.line == 0 && m.column == 0

/-- The place in words, counted from one.  The first place is not mentioned. -/
def place (m : Mark) : String :=
  if m.isFirst then ""
  else " at line " ++ toString (m.line + 1) ++ " column " ++ toString (m.column + 1)

end Mark

/-- Characters that break lines. -/
def isBreak (c : Char) : Bool :=
  c == '\n' || c == '\r' || c.toNat == 0x85 || c.toNat == 0x2028 || c.toNat == 0x2029

/-- Blanks inside a line. -/
def isBlank (c : Char) : Bool := c == ' ' || c == '\t'

/-- Characters of names: ASCII letters, digits, underscore and hyphen. -/
def isNameChar (c : Char) : Bool :=
  isDigit c || ('a' ≤ c && c ≤ 'z') || ('A' ≤ c && c ≤ 'Z') || c == '_' || c == '-'

/-- Characters that a text may hold at all. -/
def isAllowed (c : Char) : Bool :=
  let n := c.toNat
  n == 0x09 || n == 0x0A || n == 0x0D || (0x20 ≤ n && n ≤ 0x7E) || n == 0x85 ||
    (0xA0 ≤ n && n ≤ 0xD7FF) || (0xE000 ≤ n && n ≤ 0xFFFD) || 0x10000 ≤ n

/-- What stands for a line break in the content of a scalar: a line feed, except that the two
Unicode separators stand for themselves. -/
def breakText (c : Char) : List Char :=
  if c.toNat == 0x2028 || c.toNat == 0x2029 then [c] else ['\n']

/-- The rest of a text and its place. -/
structure Cursor where
  rest : List Char
  mark : Mark
  deriving Repr, Inhabited

namespace Cursor

/-- The character at an offset. -/
def peek? (c : Cursor) (offset : Nat) : Option Char := c.rest[offset]?

/-- Whether a character is at an offset. -/
def at? (c : Cursor) (offset : Nat) (x : Char) : Bool := c.peek? offset == some x

/-- Whether the text has ended. -/
def atEnd (c : Cursor) : Bool := c.rest.isEmpty

/-- Whether a blank, a line break or the end is at an offset. -/
def blankOrEnd (c : Cursor) (offset : Nat) : Bool :=
  match c.peek? offset with
  | none => true
  | some x => isBlank x || isBreak x

/-- Whether a line break or the end is next. -/
def breakOrEnd (c : Cursor) : Bool :=
  match c.peek? 0 with
  | none => true
  | some x => isBreak x

/-- Goes over so many characters, none of them a line break. -/
def skip (c : Cursor) (count : Nat) : Cursor :=
  ⟨c.rest.drop count, c.mark.forward (c.rest.take count)⟩

/-- Goes over a line break, if there is one. -/
def skipBreak (c : Cursor) : Cursor :=
  match c.rest with
  | '\r' :: '\n' :: rest => ⟨rest, c.mark.afterBreak 2⟩
  | x :: rest => if isBreak x then ⟨rest, c.mark.afterBreak x.utf8Size⟩ else c
  | [] => c

/-- The content that the next line break stands for; none at the end. -/
def nextBreakText (c : Cursor) : List Char :=
  match c.rest with
  | x :: _ => if isBreak x then breakText x else []
  | [] => []

/-- The longest run of characters of a class on this line, and the place after it. -/
def span (c : Cursor) (p : Char → Bool) : List Char × Cursor :=
  let run := c.rest.takeWhile fun x => p x && !isBreak x
  (run, c.skip run.length)

/-- Goes over blanks. -/
def skipBlanks (c : Cursor) : Cursor := (c.span isBlank).2

/-- Goes over everything up to the line break. -/
def skipLine (c : Cursor) : Cursor := (c.span fun _ => true).2

/-- Goes over a byte order mark at the beginning of a line. -/
def skipOrderMark (c : Cursor) : Cursor :=
  if c.mark.column == 0 && c.at? 0 (Char.ofNat 0xFEFF) then c.skip 1 else c

/-- Goes over a comment. -/
def skipComment (c : Cursor) : Cursor := if c.at? 0 '#' then c.skipLine else c

/-- Whether a document indicator made of `x` stands at the beginning of the line. -/
def atIndicator (c : Cursor) (x : Char) : Bool :=
  c.mark.column == 0 && c.at? 0 x && c.at? 1 x && c.at? 2 x && c.blankOrEnd 3

/-- Whether a document begins or ends at the beginning of the line. -/
def atDocumentIndicator (c : Cursor) : Bool := c.atIndicator '-' || c.atIndicator '.'

end Cursor

end StepScript.Yaml
