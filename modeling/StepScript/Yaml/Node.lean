import StepScript.Yaml.Lexer
set_option autoImplicit false

/-!
# YAML: from tokens to a document

A document is one tree of scalars, lists and records.  Anchors are numbered, and an alias holds the
number of its anchor: the number of different anchor names before it.  A name that is given again
keeps no number of its own, so the next new name shares the number of the last one.

A text with a flaw has a tree as well, which is cut off where the flaw was met: a cut node stands in
the place of what could not be read, last in every list and record that was still open.  Who reads
the tree in order meets the flaw exactly when reading needs more than was there before it.
-/

namespace StepScript.Yaml

/-- A node.  Its mark is the place of its first property, or of its content when it has none. -/
inductive Node where
  | scalar (mark : Mark) (anchor : Option Nat) (tag : Option Tag) (style : Style) (text : String)
  | list (mark : Mark) (anchor : Option Nat) (tag : Option Tag) (items : List Node)
  | record (mark : Mark) (anchor : Option Nat) (tag : Option Tag) (entries : List (Node × Node))
  | alias (mark : Mark) (anchor : Nat)
  /-- What cannot be read because of a flaw. -/
  | cut (flaw : Flaw)
  deriving Repr, Inhabited

namespace Node

/-- Place of a node. -/
def mark : Node → Mark
  | .scalar mark .. => mark
  | .list mark .. => mark
  | .record mark .. => mark
  | .alias mark _ => mark
  | .cut flaw => flaw.mark

/-- Tag of a node. -/
def tag? : Node → Option Tag
  | .scalar _ _ tag .. => tag
  | .list _ _ tag _ => tag
  | .record _ _ tag _ => tag
  | .alias .. => none
  | .cut _ => none

/-- The scalar that stands where there is no content. -/
def blank (mark : Mark) : Node := .scalar mark none none .plain ""

mutual

/-- The anchored nodes of a tree by number, in the order of their beginnings. -/
def anchored : Node → List (Nat × Node)
  | .scalar mark anchor tag style text =>
      (anchor.map fun n => (n, Node.scalar mark anchor tag style text)).toList
  | .list mark anchor tag items =>
      (anchor.map fun n => (n, Node.list mark anchor tag items)).toList ++ anchoredItems items
  | .record mark anchor tag entries =>
      (anchor.map fun n => (n, Node.record mark anchor tag entries)).toList ++
        anchoredEntries entries
  | .alias .. => []
  | .cut _ => []

/-- The anchored nodes of the items of a list. -/
def anchoredItems : List Node → List (Nat × Node)
  | [] => []
  | item :: items => item.anchored ++ anchoredItems items

/-- The anchored nodes of the entries of a record. -/
def anchoredEntries : List (Node × Node) → List (Nat × Node)
  | [] => []
  | (key, value) :: entries => key.anchored ++ value.anchored ++ anchoredEntries entries

end

mutual

/-- The flaw that reading a whole tree meets. -/
def flaw? : Node → Option Flaw
  | .scalar .. => none
  | .list _ _ _ items => itemsFlaw? items
  | .record _ _ _ entries => entriesFlaw? entries
  | .alias .. => none
  | .cut flaw => some flaw

/-- The flaw that reading the items of a list meets. -/
def itemsFlaw? : List Node → Option Flaw
  | [] => none
  | item :: items => item.flaw?.or (itemsFlaw? items)

/-- The flaw that reading the entries of a record meets. -/
def entriesFlaw? : List (Node × Node) → Option Flaw
  | [] => none
  | (key, value) :: entries => (key.flaw?.or value.flaw?).or (entriesFlaw? entries)

end

end Node

/-- The first document of a text: its tree, the nodes that aliases stand for, the flaw met up to its
end, and whether another document follows or something that is none. -/
structure Document where
  root : Node
  targets : List (Nat × Node)
  flaw? : Option Flaw
  isFollowed : Bool

namespace Document

/-- Whether a text is just this document, without a flaw. -/
def isWhole (d : Document) : Bool := d.flaw?.isNone && !d.isFollowed

/-- The node that a node stands for: itself, unless it is an alias.  Of several nodes with one
number the last one counts. -/
def resolve (d : Document) : Node → Node
  | .alias mark anchor =>
      match (d.targets.filter fun target => target.1 == anchor).getLast? with
      | some target => target.2
      | none => .alias mark anchor
  | n => n

end Document

/-- What the parser has learned so far: the lexer, the number of tokens gone over, the numbers of
the anchors, the tag handles of the document, and the flaw that ends it all. -/
structure Parser where
  lexer : Lexer
  position : Nat
  anchors : List (String × Nat)
  handles : List (String × List UInt8)
  flaw? : Option Flaw

namespace Parser

/-- The parser at the beginning of a text, where it meets the first character that no text may
hold. -/
def start (text : List Char) : Parser :=
  let flaw? :=
    if text.all isAllowed then none
    else
      some ⟨.controlCharacter, ⟨octets (text.takeWhile isAllowed), 0, 0⟩, none⟩
  ⟨.start text, 0, [], [], flaw?⟩

/-- A step of the parser. -/
abbrev M (α : Type) : Type := StateM Parser α

/-- The next token; after a flaw, the token that holds it. -/
def next : M Token := do
  let p ← get
  match p.flaw? with
  | some flaw => pure ⟨.flawed flaw, flaw.mark, flaw.mark⟩
  | none =>
      match p.lexer.token p.position with
      | .error flaw =>
          set { p with flaw? := some flaw }
          pure ⟨.flawed flaw, flaw.mark, flaw.mark⟩
      | .ok (token, lexer) =>
          set { p with lexer := lexer }
          pure token

/-- Goes over a token. -/
def skip : M Unit := modify fun p => { p with position := p.position + 1 }

/-- Cuts the tree off for a flaw, or for the one met before. -/
def refuse (flaw : Flaw) : M Node := do
  let p ← get
  let first := p.flaw?.getD flaw
  set { p with flaw? := some first }
  pure (.cut first)

/-- Gives an anchor its number. -/
def number (name : String) : M Nat := do
  let p ← get
  let n := p.anchors.length
  set { p with anchors := (name, n) :: p.anchors.filter fun entry => entry.1 != name }
  pure n

/-- The alias of a name at a place. -/
def aliasOf (name : String) (mark : Mark) : M Node := do
  match (← get).anchors.find? fun entry => entry.1 == name with
  | some entry => pure (.alias mark entry.2)
  | none => refuse ⟨.unknownAnchor, mark, none⟩

/-- A tag as it is written, and its place. -/
structure TagParts where
  handle : String
  suffix : List UInt8
  mark : Mark

/-- The whole tag, if its handle is known. -/
def TagParts.tag? (t : TagParts) (handles : List (String × List UInt8)) : Option Tag :=
  if t.handle = "" then some ⟨t.suffix⟩
  else (handles.find? fun entry => entry.1 == t.handle).map fun entry => ⟨entry.2 ++ t.suffix⟩

/-- The properties of a node, as they are written. -/
structure Properties where
  mark : Option Mark
  anchor : Option String
  tag : Option TagParts

/-- Reads an anchor and a tag, in either order. -/
def properties : M Properties := do
  let first ← next
  match first.kind with
  | .anchor name =>
      skip
      let second ← next
      match second.kind with
      | .tag handle suffix =>
          skip
          pure ⟨some first.start, some name, some ⟨handle, suffix, second.start⟩⟩
      | _ => pure ⟨some first.start, some name, none⟩
  | .tag handle suffix =>
      skip
      let tag : TagParts := ⟨handle, suffix, first.start⟩
      let second ← next
      match second.kind with
      | .anchor name =>
          skip
          pure ⟨some first.start, some name, some tag⟩
      | _ => pure ⟨some first.start, none, some tag⟩
  | _ => pure ⟨none, none, none⟩

mutual

/-- Reads a node.  `inBlock` allows block collections, `bareList` a list at the column of its
record. -/
def node : Nat → Bool → Bool → M Node
  | 0, _, _ => pure (.blank .start)
  | fuel + 1, inBlock, bareList => do
      let first ← next
      match first.kind with
      | .alias name =>
          skip
          aliasOf name first.start
      | _ =>
          let p ← properties
          let token ← next
          let mark := p.mark.getD token.start
          let handles := (← get).handles
          match p.tag.map fun t => (t.mark, t.tag? handles) with
          | some (place, none) => refuse ⟨.undefinedHandle, place, some (.node, mark)⟩
          | tag =>
              let anchor ← p.anchor.mapM number
              content fuel inBlock bareList mark anchor (tag.bind Prod.snd)

/-- Reads the content of a node after its properties. -/
def content : Nat → Bool → Bool → Mark → Option Nat → Option Tag → M Node
  | 0, _, _, mark, _, _ => pure (.blank mark)
  | fuel + 1, inBlock, bareList, mark, anchor, tag => do
      let token ← next
      match token.kind, inBlock, bareList with
      | .flawed flaw, _, _ => pure (.cut flaw)
      | .item, _, true => pure (.list mark anchor tag (← bareItems fuel))
      | .scalar style text, _, _ =>
          skip
          pure (.scalar mark anchor tag style text)
      | .flowListStart, _, _ =>
          skip
          pure (.list mark anchor tag (← flowItems fuel token.start true))
      | .flowRecordStart, _, _ =>
          skip
          pure (.record mark anchor tag (← flowEntries fuel token.start true))
      | .blockListStart, true, _ =>
          skip
          pure (.list mark anchor tag (← blockItems fuel token.start))
      | .blockRecordStart, true, _ =>
          skip
          pure (.record mark anchor tag (← blockEntries fuel token.start))
      | _, _, _ =>
          if anchor.isSome || tag.isSome then pure (.scalar mark anchor tag .plain "")
          else
            let activity := if inBlock then Activity.blockNode else Activity.flowNode
            refuse ⟨.noContent, token.start, some (activity, mark)⟩

/-- Reads the items of a block list that began at `start`, and its end. -/
def blockItems : Nat → Mark → M (List Node)
  | 0, _ => pure []
  | fuel + 1, start => do
      let token ← next
      match token.kind with
      | .item =>
          skip
          let item ←
            match (← next).kind with
            | .item | .blockEnd => pure (Node.blank token.stop)
            | _ => node fuel true false
          pure (item :: (← blockItems fuel start))
      | .blockEnd =>
          skip
          pure []
      | _ => pure [← refuse ⟨.noItem, token.start, some (.blockList, start)⟩]

/-- Reads the items of a list at the column of its record. -/
def bareItems : Nat → M (List Node)
  | 0 => pure []
  | fuel + 1 => do
      let token ← next
      match token.kind with
      | .item =>
          skip
          let item ←
            match (← next).kind with
            | .item | .key | .value | .blockEnd => pure (Node.blank token.stop)
            | _ => node fuel true false
          pure (item :: (← bareItems fuel))
      | .flawed flaw => pure [.cut flaw]
      | _ => pure []

/-- Reads a key or a value of a block record; `stop` is the place after its indicator. -/
def blockPart : Nat → Mark → M Node
  | 0, stop => pure (.blank stop)
  | fuel + 1, stop => do
      match (← next).kind with
      | .key | .value | .blockEnd => pure (.blank stop)
      | _ => node fuel true true

/-- Reads the entries of a block record that began at `start`, and its end. -/
def blockEntries : Nat → Mark → M (List (Node × Node))
  | 0, _ => pure []
  | fuel + 1, start => do
      let token ← next
      match token.kind with
      | .key =>
          skip
          let key ← blockPart fuel token.stop
          let value ← blockValue fuel
          pure ((key, value) :: (← blockEntries fuel start))
      | .blockEnd =>
          skip
          pure []
      | _ =>
          let cut ← refuse ⟨.noKey, token.start, some (.blockRecord, start)⟩
          pure [(cut, cut)]

/-- Reads the value of an entry of a block record. -/
def blockValue : Nat → M Node
  | 0 => pure (.blank .start)
  | fuel + 1 => do
      let token ← next
      match token.kind with
      | .value =>
          skip
          blockPart fuel token.stop
      | .flawed flaw => pure (.cut flaw)
      | _ => pure (.blank token.start)

/-- Reads the items of a flow list that began at `start`, and its end. -/
def flowItems : Nat → Mark → Bool → M (List Node)
  | 0, _, _ => pure []
  | fuel + 1, start, first => do
      let token ← next
      if token.kind = .flowListEnd then
        skip
        pure []
      else if !first && token.kind != .comma then
        pure [← refuse ⟨.noListComma, token.start, some (.flowList, start)⟩]
      else
        if !first then skip
        let token ← next
        match token.kind with
        | .flowListEnd =>
            skip
            pure []
        | .key =>
            skip
            let key ← flowPairKey fuel
            let value ← flowPairValue fuel
            pure (.record token.start none none [(key, value)] :: (← flowItems fuel start false))
        | _ =>
            let item ← node fuel false false
            pure (item :: (← flowItems fuel start false))

/-- Reads the key of a pair in a flow list.  Where there is none, the token in its place is gone
over, whatever it is. -/
def flowPairKey : Nat → M Node
  | 0 => pure (.blank .start)
  | fuel + 1 => do
      let token ← next
      match token.kind with
      | .value | .comma | .flowListEnd =>
          skip
          pure (.blank token.stop)
      | _ => node fuel false false

/-- Reads the value of a pair in a flow list. -/
def flowPairValue : Nat → M Node
  | 0 => pure (.blank .start)
  | fuel + 1 => do
      let token ← next
      match token.kind with
      | .value =>
          skip
          let following ← next
          match following.kind with
          | .comma | .flowListEnd => pure (.blank following.start)
          | _ => node fuel false false
      | .flawed flaw => pure (.cut flaw)
      | _ => pure (.blank token.start)

/-- Reads the entries of a flow record that began at `start`, and its end. -/
def flowEntries : Nat → Mark → Bool → M (List (Node × Node))
  | 0, _, _ => pure []
  | fuel + 1, start, first => do
      let token ← next
      if token.kind = .flowRecordEnd then
        skip
        pure []
      else if !first && token.kind != .comma then
        let cut ← refuse ⟨.noRecordComma, token.start, some (.flowRecord, start)⟩
        pure [(cut, cut)]
      else
        if !first then skip
        let token ← next
        match token.kind with
        | .flowRecordEnd =>
            skip
            pure []
        | .key =>
            skip
            let following ← next
            let key ←
              match following.kind with
              | .value | .comma | .flowRecordEnd => pure (Node.blank following.start)
              | _ => node fuel false false
            let value ← flowValue fuel
            pure ((key, value) :: (← flowEntries fuel start false))
        | _ =>
            let key ← node fuel false false
            let following ← next
            let value :=
              match following.kind with
              | .flawed flaw => Node.cut flaw
              | _ => Node.blank following.start
            pure ((key, value) :: (← flowEntries fuel start false))

/-- Reads the value of an entry of a flow record. -/
def flowValue : Nat → M Node
  | 0 => pure (.blank .start)
  | fuel + 1 => do
      let token ← next
      match token.kind with
      | .value =>
          skip
          let following ← next
          match following.kind with
          | .comma | .flowRecordEnd => pure (.blank following.start)
          | _ => node fuel false false
      | .flawed flaw => pure (.cut flaw)
      | _ => pure (.blank token.start)

end

/-- Reads the directives of a document, at most so many.  A flaw among them is kept as the one that
ends the text. -/
def directives : Nat → Bool → M Unit
  | 0, _ => pure ()
  | fuel + 1, versioned => do
      let token ← next
      match token.kind with
      | .version major minor =>
          if versioned then discard (refuse ⟨.secondVersion, token.start, none⟩)
          else if major != 1 || (minor != 1 && minor != 2) then
            discard (refuse ⟨.unknownVersion, token.start, none⟩)
          else
            skip
            directives fuel true
      | .tagHandle handle expansion =>
          let p ← get
          if p.handles.any fun entry => entry.1 == handle then
            discard (refuse ⟨.secondHandle, token.start, none⟩)
          else
            set { p with handles := (handle, expansion) :: p.handles }
            skip
            directives fuel versioned
      | _ => pure ()

/-- The tag handles that every document knows. -/
def standardHandles : List (String × List UInt8) :=
  [("!", [Tag.bang]), ("!!", (Tag.core "").octets)]

/-- Reads the root of a document that began explicitly. -/
def explicitRoot (fuel : Nat) : M Node := do
  let token ← next
  match token.kind with
  | .version .. | .tagHandle .. | .documentStart | .documentEnd | .streamEnd =>
      pure (.blank token.start)
  | _ => node fuel true false

/-- Reads the root of the first document; none if there is no document. -/
def root? (fuel : Nat) : M (Option Node) := do
  let token ← next
  match token.kind with
  | .streamEnd => pure none
  | .version .. | .tagHandle .. | .documentStart =>
      directives fuel false
      let begin ← next
      if begin.kind = .documentStart then
        skip
        modify fun p => { p with handles := p.handles ++ standardHandles }
        some <$> explicitRoot fuel
      else some <$> refuse ⟨.noDocumentStart, begin.start, none⟩
  | _ =>
      modify fun p => { p with handles := standardHandles }
      some <$> node fuel true false

/-- Whether anything but the end of the stream follows the ends of documents, of which at most so
many are gone over. -/
def isFollowed : Nat → M Bool
  | 0 => pure false
  | fuel + 1 => do
      match (← next).kind with
      | .documentEnd =>
          skip
          isFollowed fuel
      | .streamEnd => pure false
      | _ => pure true

/-- Reads the first document; none if there is no document. -/
def document? (fuel : Nat) : M (Option Document) := do
  match ← root? fuel with
  | none => pure none
  | some root =>
      if (← next).kind = .documentEnd then skip
      let flaw? := (← get).flaw?
      let followed ← isFollowed fuel
      pure (some ⟨root, root.anchored, flaw?, followed⟩)

end Parser

/-- The first document of a text; none if the text has no content at all. -/
def documentOf (text : String) : Option Document :=
  let chars := text.toList
  ((Parser.document? (16 * chars.length + 64)).run (.start chars)).1

end StepScript.Yaml
