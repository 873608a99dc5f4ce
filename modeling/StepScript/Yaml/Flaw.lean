import StepScript.Yaml.Cursor
set_option autoImplicit false

/-!
# YAML: flaws

A flaw is the first thing that keeps a text from being a document: the problem, the place where it
shows, and often what was being read there and where that began.
-/

namespace StepScript.Yaml

/-- What is wrong. -/
inductive Problem where
  /-- A character that no text may hold. -/
  | controlCharacter
  /-- A character that begins no token. -/
  | noToken
  /-- A key without its colon. -/
  | noColon
  | misplacedItem
  | misplacedKey
  | misplacedValue
  | noDirectiveName
  | unfinishedDirectiveName
  | unknownDirective
  | noVersionNumber
  | longVersionNumber
  /-- A version without its point. -/
  | noVersionPoint
  | noTagMark
  | noTagAddress
  /-- A verbatim tag without its end. -/
  | openTag
  | noEscapedOctet
  | badLeadingOctet
  | badTrailingOctet
  | noBlank
  | noBlankOrBreak
  | noCommentOrBreak
  /-- An anchor or an alias without a name. -/
  | noName
  | zeroIndentation
  /-- A tab in the indentation of a block scalar. -/
  | tabForSpace
  /-- A tab in the indentation of a plain scalar. -/
  | tabInIndentation
  | colonInScalar
  | documentInScalar
  /-- A quoted scalar without its end. -/
  | openScalar
  | unknownEscape
  | noEscapedNumber
  /-- An escape with the number of no character. -/
  | noEscapedCharacter
  | secondVersion
  | unknownVersion
  | secondHandle
  | undefinedHandle
  | noDocumentStart
  | noContent
  | noItem
  | noKey
  | noListComma
  | noRecordComma
  /-- An alias whose anchor was not given before. -/
  | unknownAnchor
  deriving DecidableEq, Repr

namespace Problem

/-- The problem in words. -/
def text : Problem → String
  | .controlCharacter => "control characters are not allowed"
  | .noToken => "found character that cannot start any token"
  | .noColon => "could not find expected ':'"
  | .misplacedItem => "block sequence entries are not allowed in this context"
  | .misplacedKey => "mapping keys are not allowed in this context"
  | .misplacedValue => "mapping values are not allowed in this context"
  | .noDirectiveName => "could not find expected directive name"
  | .unfinishedDirectiveName => "found unexpected non-alphabetical character"
  | .unknownDirective => "found unknown directive name"
  | .noVersionNumber => "did not find expected version number"
  | .longVersionNumber => "found extremely long version number"
  | .noVersionPoint => "did not find expected digit or '.' character"
  | .noTagMark => "did not find expected '!'"
  | .noTagAddress => "did not find expected tag URI"
  | .openTag => "did not find the expected '>'"
  | .noEscapedOctet => "did not find URI escaped octet"
  | .badLeadingOctet => "found an incorrect leading UTF-8 octet"
  | .badTrailingOctet => "found an incorrect trailing UTF-8 octet"
  | .noBlank => "did not find expected whitespace"
  | .noBlankOrBreak => "did not find expected whitespace or line break"
  | .noCommentOrBreak => "did not find expected comment or line break"
  | .noName => "did not find expected alphabetic or numeric character"
  | .zeroIndentation => "found an indentation indicator equal to 0"
  | .tabForSpace => "found a tab character where an indentation space is expected"
  | .tabInIndentation => "found a tab character that violates indentation"
  | .colonInScalar => "found unexpected ':'"
  | .documentInScalar => "found unexpected document indicator"
  | .openScalar => "found unexpected end of stream"
  | .unknownEscape => "found unknown escape character"
  | .noEscapedNumber => "did not find expected hexdecimal number"
  | .noEscapedCharacter => "found invalid Unicode character escape code"
  | .secondVersion => "found duplicate %YAML directive"
  | .unknownVersion => "found incompatible YAML document"
  | .secondHandle => "found duplicate %TAG directive"
  | .undefinedHandle => "found undefined tag handle"
  | .noDocumentStart => "did not find expected <document start>"
  | .noContent => "did not find expected node content"
  | .noItem => "did not find expected '-' indicator"
  | .noKey => "did not find expected key"
  | .noListComma => "did not find expected ',' or ']'"
  | .noRecordComma => "did not find expected ',' or '\x7d'"
  | .unknownAnchor => "unknown anchor"

end Problem

/-- What is being read. -/
inductive Activity where
  /-- The next token, whatever it is. -/
  | token
  /-- A token that has to be a key. -/
  | key
  | directive
  | versionDirective
  | tagDirective
  /-- The mark of the handle in a tag directive. -/
  | directiveHandle
  /-- The end of the handle in a tag directive. -/
  | directiveHandleEnd
  | directiveAddress
  | tag
  | tagAddress
  | anchor
  | alias
  | blockScalar
  | quotedScalar
  /-- An escape in a quoted scalar. -/
  | escape
  | plainScalar
  | node
  | blockNode
  | flowNode
  | blockList
  | blockRecord
  | flowList
  | flowRecord
  deriving DecidableEq, Repr

namespace Activity

/-- The activity in words. -/
def text : Activity → String
  | .token => "while scanning for the next token"
  | .key => "while scanning a simple key"
  | .directive => "while scanning a directive"
  | .versionDirective => "while scanning a %YAML directive"
  | .tagDirective => "while scanning a %TAG directive"
  | .directiveHandle => "while scanning a tag directive"
  | .directiveHandleEnd => "while parsing a tag directive"
  | .directiveAddress => "while parsing a %TAG directive"
  | .tag => "while scanning a tag"
  | .tagAddress => "while parsing a tag"
  | .anchor => "while scanning an anchor"
  | .alias => "while scanning an alias"
  | .blockScalar => "while scanning a block scalar"
  | .quotedScalar => "while scanning a quoted scalar"
  | .escape => "while parsing a quoted scalar"
  | .plainScalar => "while scanning a plain scalar"
  | .node => "while parsing a node"
  | .blockNode => "while parsing a block node"
  | .flowNode => "while parsing a flow node"
  | .blockList => "while parsing a block collection"
  | .blockRecord => "while parsing a block mapping"
  | .flowList => "while parsing a flow sequence"
  | .flowRecord => "while parsing a flow mapping"

end Activity

/-- A problem at a place, and perhaps what was being read, from where on. -/
structure Flaw where
  problem : Problem
  mark : Mark
  during : Option (Activity × Mark)
  deriving DecidableEq, Repr

namespace Flaw

/-- The activity in words, with the place where it began unless the problem shows there. -/
def context (f : Flaw) : String :=
  match f.during with
  | none => ""
  | some (activity, start) =>
      let same := start.line = f.mark.line && start.column = f.mark.column
      ", " ++ activity.text ++ (if same then "" else start.place)

/-- The flaw in words.  A problem found before lines are told apart has an offset for its place. -/
def text (f : Flaw) : String :=
  let place :=
    if f.mark.isFirst && f.mark.index != 0 then " at position " ++ toString f.mark.index
    else f.mark.place
  f.problem.text ++ place ++ f.context

end Flaw

end StepScript.Yaml
