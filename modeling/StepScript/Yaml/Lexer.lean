import StepScript.Yaml.Scalar
import StepScript.Yaml.Tag
set_option autoImplicit false

/-!
# YAML: from text to tokens

The lexer keeps the columns of the open block collections.  A token left of the innermost one closes
it.  A scalar, an alias or a flow collection may turn out to be a key when a colon follows it on the
same line, so its place among the tokens is remembered and the key token is put in front of it then.
Text is read no further than the next token needs, because the order in which flaws are met counts.
-/

namespace StepScript.Yaml

/-- A token that may turn out to be a key. -/
structure KeyCandidate where
  /-- Whether it has to be a key, because it stands at the column of its block. -/
  required : Bool
  /-- Number of tokens before it. -/
  position : Nat
  mark : Mark
  deriving DecidableEq, Repr

/-- State of the lexer. -/
structure Lexer where
  cursor : Cursor
  /-- Column of the innermost block collection; `-1` outside all. -/
  indent : Int
  /-- Columns of the block collections around it. -/
  indents : List Int
  /-- Key candidates of the open flow collections, innermost first, and last that of the block. -/
  candidates : List (Option KeyCandidate)
  /-- Whether a key may begin here. -/
  keyAllowed : Bool
  tokens : Array Token

namespace Lexer

/-- The lexer at the beginning of a text. -/
def start (text : List Char) : Lexer :=
  ⟨⟨text, .start⟩, -1, [], [none], true, #[]⟩

/-- Whether a flow collection is open. -/
def inFlow (l : Lexer) : Bool := 1 < l.candidates.length

/-- The place reached. -/
def mark (l : Lexer) : Mark := l.cursor.mark

/-- Appends a token. -/
def push (l : Lexer) (kind : TokenKind) (start stop : Mark) : Lexer :=
  { l with tokens := l.tokens.push ⟨kind, start, stop⟩ }

/-- Goes over so many characters and appends a token for them. -/
def pushSkip (l : Lexer) (kind : TokenKind) (count : Nat) : Lexer :=
  let next := l.cursor.skip count
  { l.push kind l.mark next.mark with cursor := next }

/-- Puts a token in front of the one at a position. -/
def insert (l : Lexer) (position : Nat) (kind : TokenKind) (mark : Mark) : Lexer :=
  { l with tokens := l.tokens.insertIdxIfInBounds position ⟨kind, mark, mark⟩ }

/-- Closes the block collections right of a column. -/
def unroll (l : Lexer) (column : Int) : Lexer :=
  if l.inFlow then l
  else go l.indents.length.succ l
where
  go : Nat → Lexer → Lexer
    | 0, l => l
    | fuel + 1, l =>
        if column < l.indent then
          go fuel { l.push .blockEnd l.mark l.mark with
            indent := l.indents.headD (-1), indents := l.indents.tail }
        else l

/-- Opens a block collection at a column, unless one is open there.  Its token goes in front of the
one at a position. -/
def roll (l : Lexer) (column : Nat) (position : Nat) (kind : TokenKind) (mark : Mark) : Lexer :=
  if l.inFlow || (column : Int) ≤ l.indent then l
  else { l.insert position kind mark with indent := column, indents := l.indent :: l.indents }

/-- The flaw of a key whose colon does not follow. -/
def noColon (l : Lexer) (k : KeyCandidate) : Flaw := ⟨.noColon, l.mark, some (.key, k.mark)⟩

/-- Gives up the key candidate of the innermost collection. -/
def dropCandidate (l : Lexer) : Except Flaw Lexer :=
  match l.candidates with
  | some k :: others =>
      if k.required then .error (l.noColon k) else .ok { l with candidates := none :: others }
  | _ => .ok l

/-- Makes the next token a key candidate, if a key may begin here. -/
def saveCandidate (l : Lexer) : Except Flaw Lexer :=
  if l.keyAllowed then
    l.dropCandidate.map fun l =>
      let required := !l.inFlow && l.indent == (l.mark.column : Int)
      { l with candidates := some ⟨required, l.tokens.size, l.mark⟩ :: l.candidates.tail }
  else .ok l

/-- Whether a key candidate still counts: a colon has to follow on its line within 1024 octets. -/
def counts (l : Lexer) (k : KeyCandidate) : Bool :=
  k.mark.line == l.mark.line && l.mark.index ≤ k.mark.index + 1024

/-- Gives up the key candidates that do not count any more. -/
def dropStale (l : Lexer) : Except Flaw Lexer :=
  match (l.candidates.filterMap id).find? fun k => k.required && !l.counts k with
  | some k => .error (l.noColon k)
  | none => .ok { l with candidates := l.candidates.map (Option.filter l.counts) }

/-- Goes over blanks, comments and line breaks to the next token, and over a byte order mark at the
beginning of a line.  Tabs count as blanks only where no key may begin, or inside flow
collections. -/
def toNextToken : Nat → Lexer → Lexer
  | 0, l => l
  | fuel + 1, l =>
      let c := l.cursor.skipOrderMark
      let tabs := l.inFlow || !l.keyAllowed
      let c := (c.span fun x => x == ' ' || (tabs && x == '\t')).2.skipComment
      if !c.atEnd && c.breakOrEnd then
        toNextToken fuel { l with cursor := c.skipBreak, keyAllowed := l.keyAllowed || !l.inFlow }
      else { l with cursor := c }

/-- Ends the stream: closes all blocks on a line of their own. -/
def lexEnd (l : Lexer) : Except Flaw Lexer :=
  let m := l.mark
  let m := if m.column = 0 then m else ⟨m.index, m.line + 1, 0⟩
  let l := { l with cursor := { l.cursor with mark := m } }
  (l.unroll (-1)).dropCandidate.map fun l => { l with keyAllowed := false }.push .streamEnd m m

/-- Reads the number of a version, of at most nine digits, in a directive that began at `start`. -/
def versionNumber (start : Mark) (c : Cursor) : Except Flaw (Nat × Cursor) :=
  let (digits, next) := c.span isDigit
  if digits.isEmpty then .error ⟨.noVersionNumber, c.mark, some (.versionDirective, start)⟩
  else if 9 < digits.length then
    .error ⟨.longVersionNumber, (c.skip 9).mark, some (.versionDirective, start)⟩
  else .ok (digitsValue digits, next)

/-- Reads the handle of a tag: `!`, and perhaps a name and another `!`.  What it belongs to, a
directive or a tag, began at `start`. -/
def tagHandle (inDirective : Bool) (start : Mark) (c : Cursor) :
    Except Flaw (List Char × Cursor) :=
  if !c.at? 0 '!' then
    .error ⟨.noTagMark, c.mark, some (if inDirective then .directiveHandle else .tag, start)⟩
  else
    let (name, next) := (c.skip 1).span isNameChar
    if next.at? 0 '!' then .ok ('!' :: (name ++ ['!']), next.skip 1)
    else if inDirective && !name.isEmpty then
      .error ⟨.noTagMark, next.mark, some (.directiveHandleEnd, start)⟩
    else .ok ('!' :: name, next)

/-- Characters of tag addresses; a few more are allowed in a verbatim tag. -/
def isAddressChar (verbatim : Bool) (c : Char) : Bool :=
  isNameChar c || ";/?:@&=+$.%!~*'()".toList.contains c || (verbatim && ",[]".toList.contains c)

/-- Number of octets that have to follow an octet at the beginning of a character. -/
def trailingOctets? (octet : Nat) : Option Nat :=
  if octet < 0x80 then some 0
  else if octet < 0xC0 then none
  else if octet < 0xE0 then some 1
  else if octet < 0xF0 then some 2
  else if octet < 0xF8 then some 3
  else none

/-- Reads the percent escape of an octet, where `owed` is the number of octets that the character
lacks; zero begins a character.  Gives the octet and the number of octets that are lacking then.
How the octets look counts; whether there is such a character does not matter. -/
def escapedOctet (owed : Nat) (context : Activity × Mark) (c : Cursor) :
    Except Flaw (UInt8 × Nat × Cursor) :=
  match c.rest with
  | '%' :: a :: b :: _ =>
      let octet := hexDigitsValue [a, b]
      if !(isHexDigit a && isHexDigit b) then .error ⟨.noEscapedOctet, c.mark, some context⟩
      else if owed = 0 then
        match trailingOctets? octet with
        | none => .error ⟨.badLeadingOctet, c.mark, some context⟩
        | some lacking => .ok (UInt8.ofNat octet, lacking, c.skip 3)
      else if 0x80 ≤ octet && octet < 0xC0 then .ok (UInt8.ofNat octet, owed - 1, c.skip 3)
      else .error ⟨.badTrailingOctet, c.mark, some context⟩
  | _ => .error ⟨.noEscapedOctet, c.mark, some context⟩

/-- Reads the octets of an address, at most so many. -/
def addressOctets (verbatim : Bool) (context : Activity × Mark) :
    Nat → Nat → Cursor → Except Flaw (List UInt8 × Cursor)
  | 0, _, c => .ok ([], c)
  | fuel + 1, owed, c =>
      if owed != 0 || c.at? 0 '%' then
        match escapedOctet owed context c with
        | .error e => .error e
        | .ok (octet, lacking, c) =>
            (addressOctets verbatim context fuel lacking c).map fun (octets, c) =>
              (octet :: octets, c)
      else
        match c.peek? 0 with
        | none => .ok ([], c)
        | some x =>
            if isAddressChar verbatim x then
              (addressOctets verbatim context fuel 0 (c.skip 1)).map fun (octets, c) =>
                (UInt8.ofNat x.toNat :: octets, c)
            else .ok ([], c)

/-- Reads the address of a tag.  It has to have a character, unless it `mayBeEmpty`; a zero octet
ends what counts of it. -/
def tagAddress (verbatim mayBeEmpty : Bool) (context : Activity × Mark) (c : Cursor) :
    Except Flaw (List UInt8 × Cursor) :=
  match addressOctets verbatim context c.rest.length.succ 0 c with
  | .error e => .error e
  | .ok (octets, next) =>
      if octets.isEmpty && !mayBeEmpty then .error ⟨.noTagAddress, next.mark, some context⟩
      else .ok (octets.takeWhile (· != 0), next)

/-- Reads the content of a directive by its name; the directive began at `start`, and `c` is the
place after the name. -/
def directiveContent (name : List Char) (start : Mark) (c : Cursor) :
    Except Flaw (TokenKind × Cursor) := do
  if name = "YAML".toList then
    let (major, c) ← versionNumber start c.skipBlanks
    if !c.at? 0 '.' then
      throw ⟨.noVersionPoint, c.mark, some (.versionDirective, start)⟩
    let (minor, c) ← versionNumber start (c.skip 1)
    pure (.version major minor, c)
  else if name = "TAG".toList then
    let (handle, c) ← tagHandle true start c.skipBlanks
    if !(c.peek? 0).any isBlank then
      throw ⟨.noBlank, c.mark, some (.tagDirective, start)⟩
    let (address, c) ← tagAddress true false (.directiveAddress, start) c.skipBlanks
    if !c.blankOrEnd 0 then
      throw ⟨.noBlankOrBreak, c.mark, some (.tagDirective, start)⟩
    pure (.tagHandle (String.ofList handle) address, c)
  else throw ⟨.unknownDirective, c.mark, some (.directive, start)⟩

/-- Reads a directive. -/
def lexDirective (l : Lexer) : Except Flaw Lexer := do
  let l ← (l.unroll (-1)).dropCandidate
  let start := l.mark
  let (name, c) := (l.cursor.skip 1).span isNameChar
  if name.isEmpty then
    throw ⟨.noDirectiveName, c.mark, some (.directive, start)⟩
  if !c.blankOrEnd 0 then
    throw ⟨.unfinishedDirectiveName, c.mark, some (.directive, start)⟩
  let (kind, c) ← directiveContent name start c
  let stop := c.mark
  let c := c.skipBlanks.skipComment
  if !c.breakOrEnd then
    throw ⟨.noCommentOrBreak, c.mark, some (.directive, start)⟩
  pure { l.push kind start stop with cursor := c.skipBreak, keyAllowed := false }

/-- Reads a document indicator. -/
def lexDocument (l : Lexer) (kind : TokenKind) : Except Flaw Lexer :=
  (l.unroll (-1)).dropCandidate.map fun l => { l with keyAllowed := false }.pushSkip kind 3

/-- Opens a flow collection. -/
def lexFlowStart (l : Lexer) (kind : TokenKind) : Except Flaw Lexer :=
  l.saveCandidate.map fun l =>
    { l with candidates := none :: l.candidates, keyAllowed := true }.pushSkip kind 1

/-- Closes a flow collection. -/
def lexFlowEnd (l : Lexer) (kind : TokenKind) : Except Flaw Lexer :=
  l.dropCandidate.map fun l =>
    let candidates := if l.inFlow then l.candidates.tail else l.candidates
    { l with candidates := candidates, keyAllowed := false }.pushSkip kind 1

/-- Reads a comma. -/
def lexComma (l : Lexer) : Except Flaw Lexer :=
  l.dropCandidate.map fun l => { l with keyAllowed := true }.pushSkip .comma 1

/-- Reads the indicator of a list item. -/
def lexItem (l : Lexer) : Except Flaw Lexer :=
  if !l.inFlow && !l.keyAllowed then .error ⟨.misplacedItem, l.mark, none⟩
  else
    (l.roll l.mark.column l.tokens.size .blockListStart l.mark).dropCandidate.map fun l =>
      { l with keyAllowed := true }.pushSkip .item 1

/-- Reads the indicator of a key. -/
def lexKey (l : Lexer) : Except Flaw Lexer :=
  if !l.inFlow && !l.keyAllowed then .error ⟨.misplacedKey, l.mark, none⟩
  else
    (l.roll l.mark.column l.tokens.size .blockRecordStart l.mark).dropCandidate.map fun l =>
      { l with keyAllowed := !l.inFlow }.pushSkip .key 1

/-- Reads the indicator of a value.  It makes a key of the candidate in front of it, if there is
one. -/
def lexValue (l : Lexer) : Except Flaw Lexer :=
  match l.candidates with
  | some k :: others =>
      let l :=
        (l.insert k.position .key k.mark).roll k.mark.column k.position .blockRecordStart k.mark
      .ok ({ l with candidates := none :: others, keyAllowed := false }.pushSkip .value 1)
  | _ =>
      if !l.inFlow && !l.keyAllowed then .error ⟨.misplacedValue, l.mark, none⟩
      else
        let l := l.roll l.mark.column l.tokens.size .blockRecordStart l.mark
        .ok ({ l with keyAllowed := !l.inFlow }.pushSkip .value 1)

/-- Reads an anchor or an alias. -/
def lexName (l : Lexer) (activity : Activity) (kind : String → TokenKind) : Except Flaw Lexer :=
  l.saveCandidate.bind fun l =>
    let (name, c) := (l.cursor.skip 1).span isNameChar
    let closed := c.blankOrEnd 0 || (c.peek? 0).any fun x => "?:,]\x7d%@\x60".toList.contains x
    if name.isEmpty || !closed then .error ⟨.noName, c.mark, some (activity, l.mark)⟩
    else
      .ok { l.push (kind (String.ofList name)) l.mark c.mark with cursor := c, keyAllowed := false }

/-- Reads the handle and the suffix of a tag that begins here. -/
def tagParts (c : Cursor) : Except Flaw (List Char × List UInt8 × Cursor) := do
  let start := c.mark
  if c.at? 1 '<' then
    let (address, c) ← tagAddress true false (.tagAddress, start) (c.skip 2)
    if !c.at? 0 '>' then
      throw ⟨.openTag, c.mark, some (.tag, start)⟩
    pure ([], address, c.skip 1)
  else
    let (handle, next) ← tagHandle false start c
    if 1 < handle.length && handle.getLast? == some '!' then
      let (suffix, next) ← tagAddress false false (.tagAddress, start) next
      pure (handle, suffix, next)
    else
      let (suffix, next) ← tagAddress false true (.tagAddress, start) next
      let suffix := Tag.octetsOf (String.ofList (handle.drop 1)) ++ suffix
      pure (if suffix.isEmpty then ([], [Tag.bang], next) else (['!'], suffix, next))

/-- Reads a tag. -/
def lexTag (l : Lexer) : Except Flaw Lexer := do
  let l ← l.saveCandidate
  let (handle, suffix, c) ← tagParts l.cursor
  if !(c.blankOrEnd 0 || (l.inFlow && c.at? 0 ',')) then
    throw ⟨.noBlankOrBreak, c.mark, some (.tag, l.mark)⟩
  pure { l.push (.tag (String.ofList handle) suffix) l.mark c.mark with
    cursor := c, keyAllowed := false }

/-- Reads a block scalar. -/
def lexBlockScalar (l : Lexer) (isFolded : Bool) : Except Flaw Lexer :=
  l.dropCandidate.bind fun l =>
    (blockScalar isFolded l.indent l.cursor).map fun (text, stop, c) =>
      let kind := TokenKind.scalar (if isFolded then .folded else .literal) (String.ofList text)
      { l.push kind l.mark stop with cursor := c, keyAllowed := true }

/-- Reads a quoted scalar. -/
def lexQuoted (l : Lexer) (single : Bool) : Except Flaw Lexer :=
  l.saveCandidate.bind fun l =>
    let fuel := l.cursor.rest.length.succ
    (quotedScalar l.mark single fuel [] (l.cursor.skip 1)).map fun (text, c) =>
      let style := if single then Style.singleQuoted else Style.doubleQuoted
      { l.push (.scalar style (String.ofList text)) l.mark c.mark with
        cursor := c, keyAllowed := false }

/-- Reads a plain scalar.  After one that ends with a line break a key may begin. -/
def lexPlain (l : Lexer) : Except Flaw Lexer :=
  l.saveCandidate.bind fun l =>
    let fresh : PlainScalar := ⟨[], l.mark, .empty, l.cursor⟩
    let fuel := l.cursor.rest.length.succ
    (plainScalar l.mark l.inFlow (l.indent + 1).toNat fuel fresh).map fun p =>
      { l.push (.scalar .plain (String.ofList p.text)) l.mark p.stop with
        cursor := p.cursor, keyAllowed := p.gap.broken }

/-- Whether a plain scalar begins here. -/
def atPlain (l : Lexer) : Bool :=
  match l.cursor.peek? 0 with
  | none => false
  | some x =>
      !(isBlank x || isBreak x || "-?:,[]\x7b\x7d#&*!|>'\"%@\x60".toList.contains x) ||
        (x == '-' && !(l.cursor.peek? 1).any isBlank) ||
        (!l.inFlow && (x == '?' || x == ':') && !l.cursor.blankOrEnd 1)

/-- Reads the next token at the place reached. -/
def lexToken (l : Lexer) : Except Flaw Lexer :=
  let c := l.cursor
  let first := c.mark.column == 0
  if first && c.at? 0 '%' then l.lexDirective
  else if c.atIndicator '-' then l.lexDocument .documentStart
  else if c.atIndicator '.' then l.lexDocument .documentEnd
  else if c.at? 0 '[' then l.lexFlowStart .flowListStart
  else if c.at? 0 '\x7b' then l.lexFlowStart .flowRecordStart
  else if c.at? 0 ']' then l.lexFlowEnd .flowListEnd
  else if c.at? 0 '\x7d' then l.lexFlowEnd .flowRecordEnd
  else if c.at? 0 ',' then l.lexComma
  else if c.at? 0 '-' && c.blankOrEnd 1 then l.lexItem
  else if c.at? 0 '?' && (l.inFlow || c.blankOrEnd 1) then l.lexKey
  else if c.at? 0 ':' && (l.inFlow || c.blankOrEnd 1) then l.lexValue
  else if c.at? 0 '*' then l.lexName .alias .alias
  else if c.at? 0 '&' then l.lexName .anchor .anchor
  else if c.at? 0 '!' then l.lexTag
  else if c.at? 0 '|' && !l.inFlow then l.lexBlockScalar false
  else if c.at? 0 '>' && !l.inFlow then l.lexBlockScalar true
  else if c.at? 0 '\'' then l.lexQuoted true
  else if c.at? 0 '"' then l.lexQuoted false
  else if l.atPlain then l.lexPlain
  else .error ⟨.noToken, l.mark, some (.token, l.mark)⟩

/-- Reads on: goes to the next token, closes the blocks left of it and reads it. -/
def advance (l : Lexer) : Except Flaw Lexer :=
  (l.toNextToken l.cursor.rest.length.succ).dropStale.bind fun l =>
    let l := l.unroll l.mark.column
    if l.cursor.atEnd then l.lexEnd else l.lexToken

/-- Reads on, at most so many times, until the token at a position is known: it has to be there, and
no key token may come in front of it any more. -/
def supply (position : Nat) : Nat → Lexer → Except Flaw Lexer
  | 0, l => .ok l
  | fuel + 1, l =>
      if l.tokens.size ≤ position then l.advance.bind (supply position fuel)
      else
        l.dropStale.bind fun l =>
          if l.candidates.any (Option.any fun k => k.position == position) then
            l.advance.bind (supply position fuel)
          else .ok l

/-- The token at a position, and the lexer that has read it.  After the end of the stream there are
no further tokens. -/
def token (l : Lexer) (position : Nat) : Except Flaw (Token × Lexer) :=
  (l.supply position (l.cursor.rest.length + 2)).map fun l =>
    (l.tokens[position]?.getD ⟨.streamEnd, l.mark, l.mark⟩, l)

end Lexer

end StepScript.Yaml
