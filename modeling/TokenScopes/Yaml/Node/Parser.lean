import TokenScopes.Yaml.Node

namespace TokenScopes.Yaml

/-- The tokens ahead, the nodes so far, and what the names of the document stand for. -/
structure Ahead where
  tokens : List Token
  nodes : Nodes := #[]
  anchors : List (String × NodeId) := []
  handles : List (String × String) := []

namespace Ahead

abbrev Parsed := Except Fault (NodeId × Ahead)

def peek (a : Ahead) : Token :=
  a.tokens.headD (.fault .malformed)

def next (a : Ahead) : Ahead :=
  { a with tokens := a.tokens.tail }

def add (a : Ahead) (n : Node) : NodeId × Ahead :=
  (a.nodes.size, { a with nodes := a.nodes.push n })

def addEmpty (a : Ahead) : NodeId × Ahead :=
  a.add .empty

def put (a : Ahead) (i : NodeId) (n : Node) : Ahead :=
  { a with nodes := a.nodes.setIfInBounds i n }

/-- The fault of a token that cannot stand here: its own, if it is one. -/
def unexpected {α : Type} (a : Ahead) : Except Fault α :=
  match a.peek with
  | .fault f => .error f
  | _ => .error .malformed

structure Properties where
  anchor : Option String := none
  /-- The whole tag, with its handle resolved. -/
  tag : Option String := none

def resolveTag (a : Ahead) (handle : Option String) (suffix : String) : Except Fault String :=
  match handle with
  | none => .ok suffix
  | some h =>
    match a.handles.lookup h with
    | some start => .ok (start ++ suffix)
    | none => .error .malformed

/-- Reads an anchor and a tag, which come in either order. The tag is resolved after both, and
after a look at the token behind a tag without an anchor. -/
def properties (a : Ahead) : Except Fault (Properties × Ahead) :=
  match a.peek with
  | .anchor name =>
    match a.next.peek with
    | .tag h s => do return (⟨some name, some (← a.resolveTag h s)⟩, a.next.next)
    | _ => .ok (⟨some name, none⟩, a.next)
  | .tag h s =>
    match a.next.peek with
    | .anchor name => do return (⟨some name, some (← a.resolveTag h s)⟩, a.next.next)
    | .fault f => .error f
    | _ => do return (⟨none, some (← a.resolveTag h s)⟩, a.next)
  | _ => .ok ({}, a)

/-- The tag of a node: the one given, or the one for its kind. -/
def Properties.tagOr (p : Properties) (default : Tag) : Tag :=
  match p.tag with
  | none | some "!" => default
  | some t => .ofText t

/-- The node of a scalar. A plain one without a tag, or any with the tag `!`, goes by its looks. -/
def scalarNode (p : Properties) (text : Text) (plain : Bool) : Node :=
  let byLooks := (plain && p.tag.isNone) || p.tag == some "!"
  .scalar (p.tagOr (if byLooks then .ofPlain text.chars else .str)) text

/-- Adds a node under its name. A collection is named before its parts are read. -/
def define (a : Ahead) (p : Properties) (n : Node) : NodeId × Ahead :=
  let (i, a) := a.add n
  match p.anchor with
  | none => (i, a)
  | some name => (i, { a with anchors := (name, i) :: a.anchors })

def openSequence (a : Ahead) (p : Properties) : NodeId × Ahead :=
  a.define p (.sequence (p.tagOr .seq) [])

def openMapping (a : Ahead) (p : Properties) : NodeId × Ahead :=
  a.define p (.mapping (p.tagOr .map) [])

def closeSequence (p : Properties) (i : NodeId) (read : List NodeId × Ahead) : NodeId × Ahead :=
  (i, read.2.put i (.sequence (p.tagOr .seq) read.1))

def closeMapping (p : Properties) (i : NodeId) (read : List (NodeId × NodeId) × Ahead) :
    NodeId × Ahead :=
  (i, read.2.put i (.mapping (p.tagOr .map) read.1))

def isAnchored (a : Ahead) (p : Properties) : Bool :=
  match p.anchor with
  | some name => (a.anchors.lookup name).isSome
  | none => false

/-- The content is left out in front of these tokens, in a block mapping. -/
def endsKeyOrValue : Token → Bool
  | .key | .value | .blockEnd => true
  | _ => false

mutual

/-- Reads a node. Block collections stand in blocks only, and a sequence without an indentation of
its own only where `indentless` says so. The count exceeds the number of calls: no two calls in a
row leave the tokens as they are. -/
def node (block indentless : Bool) : Nat → Ahead → Parsed
  | 0, a => a.unexpected
  | fuel + 1, a =>
    match a.peek with
    | .alias name =>
      match a.anchors.lookup name with
      | some i => .ok (i, a.next)
      | none => .error .malformed
    | _ => do
      let (p, a) ← a.properties
      match a.peek with
      | .fault f => throw f
      | t => do
        if a.isAnchored p then throw .malformed
        match t, block, indentless with
        | .blockEntry, _, true => do
          let (i, a) := a.openSequence p
          return closeSequence p i (← blockEntries true [] fuel a)
        | .scalar text plain, _, _ => return a.next.define p (scalarNode p text plain)
        | .flowSequenceStart, _, _ => do
          let (i, a) := a.next.openSequence p
          return closeSequence p i (← flowItems true [] fuel a)
        | .flowMappingStart, _, _ => do
          let (i, a) := a.next.openMapping p
          return closeMapping p i (← flowEntries true [] fuel a)
        | .blockSequenceStart, true, _ => do
          let (i, a) := a.next.openSequence p
          return closeSequence p i (← blockEntries false [] fuel a)
        | .blockMappingStart, true, _ => do
          let (i, a) := a.next.openMapping p
          return closeMapping p i (← blockMembers [] fuel a)
        | _, _, _ =>
          if p.anchor.isNone && p.tag.isNone then throw .malformed
          else return a.define p (scalarNode p "" true)

/-- Reads the entries of a block sequence. One without an indentation of its own ends with the
first token that starts no entry, the others with their end. -/
def blockEntries (indentless : Bool) (acc : List NodeId) :
    Nat → Ahead → Except Fault (List NodeId × Ahead)
  | 0, a => a.unexpected
  | fuel + 1, a =>
    match a.peek with
    | .blockEntry => do
      let a := a.next
      let empty := match a.peek with
        | .blockEntry | .blockEnd => true
        | .key | .value => indentless
        | _ => false
      let (i, a) ← if empty then pure a.addEmpty else node true false fuel a
      blockEntries indentless (i :: acc) fuel a
    | t =>
      if indentless then
        match t with
        | .fault f => .error f
        | _ => .ok (acc.reverse, a)
      else
        match t with
        | .blockEnd => .ok (acc.reverse, a.next)
        | _ => a.unexpected

def blockMembers (acc : List (NodeId × NodeId)) :
    Nat → Ahead → Except Fault (List (NodeId × NodeId) × Ahead)
  | 0, a => a.unexpected
  | fuel + 1, a =>
    match a.peek with
    | .key => do
      let a := a.next
      let (k, a) ← if endsKeyOrValue a.peek then pure a.addEmpty else node true true fuel a
      match a.peek with
      | .value => do
        let a := a.next
        let (v, a) ← if endsKeyOrValue a.peek then pure a.addEmpty else node true true fuel a
        blockMembers ((k, v) :: acc) fuel a
      | .fault f => throw f
      | _ => do
        let (v, a) := a.addEmpty
        blockMembers ((k, v) :: acc) fuel a
    | .blockEnd => .ok (acc.reverse, a.next)
    | _ => a.unexpected

/-- Reads the items of a flow sequence up to its end. An item with a colon is a mapping of one
entry. -/
def flowItems (first : Bool) (acc : List NodeId) :
    Nat → Ahead → Except Fault (List NodeId × Ahead)
  | 0, a => a.unexpected
  | fuel + 1, a =>
    match a.peek with
    | .flowSequenceEnd => .ok (acc.reverse, a.next)
    | _ => do
      let a ← match first, a.peek with
        | true, _ => pure a
        | false, .flowEntry => pure a.next
        | false, _ => a.unexpected
      match a.peek with
      | .flowSequenceEnd => return (acc.reverse, a.next)
      | .key => do
        let a := a.next
        let (k, a) ← match a.peek with
          | .value | .flowEntry | .flowSequenceEnd => pure a.addEmpty
          | _ => node false false fuel a
        let (v, a) ← match a.peek with
          | .value =>
            let a := a.next
            match a.peek with
            | .flowEntry | .flowSequenceEnd => pure a.addEmpty
            | _ => node false false fuel a
          | _ => pure a.addEmpty
        let (i, a) := a.add (.mapping .map [(k, v)])
        flowItems false (i :: acc) fuel a
      | _ => do
        let (i, a) ← node false false fuel a
        flowItems false (i :: acc) fuel a

def flowEntries (first : Bool) (acc : List (NodeId × NodeId)) :
    Nat → Ahead → Except Fault (List (NodeId × NodeId) × Ahead)
  | 0, a => a.unexpected
  | fuel + 1, a =>
    match a.peek with
    | .flowMappingEnd => .ok (acc.reverse, a.next)
    | _ => do
      let a ← match first, a.peek with
        | true, _ => pure a
        | false, .flowEntry => pure a.next
        | false, _ => a.unexpected
      match a.peek with
      | .flowMappingEnd => return (acc.reverse, a.next)
      | .key => do
        let a := a.next
        let (k, a) ← match a.peek with
          | .value | .flowEntry | .flowMappingEnd => pure a.addEmpty
          | _ => node false false fuel a
        let (v, a) ← match a.peek with
          | .value =>
            let a := a.next
            match a.peek with
            | .flowEntry | .flowMappingEnd => pure a.addEmpty
            | _ => node false false fuel a
          | _ => pure a.addEmpty
        flowEntries false ((k, v) :: acc) fuel a
      | _ => do
        let (k, a) ← node false false fuel a
        let (v, a) := a.addEmpty
        flowEntries false ((k, v) :: acc) fuel a

end

def defaultHandles : List (String × String) :=
  [("!", "!"), ("!!", Tag.standardStart)]

/-- Reads the directives of a document. The version is given once, and so is each handle. -/
def directives (version : Bool) (handles : List (String × String)) :
    List Token → Except Fault (List (String × String) × List Token)
  | .versionDirective major :: rest =>
    if version || major != 1 then .error .malformed else directives true handles rest
  | .tagDirective h start :: rest =>
    if (handles.lookup h).isSome then .error .malformed
    else directives version ((h, start) :: handles) rest
  | .otherDirective :: rest => directives version handles rest
  | rest => .ok (handles ++ defaultHandles, rest)

/-- Reads the start of a document that has directives or a marker, up to its content. -/
def documentStart (tokens : List Token) :
    Except Fault (List (String × String) × List Token) := do
  let (handles, rest) ← directives false [] tokens
  match rest with
  | .documentStart :: rest => return (handles, rest)
  | .fault f :: _ => throw f
  | _ => throw .malformed

/-- After a document nothing follows but its end. A second one is refused when its start was
read. -/
def checkEnd : List Token → Except Fault Unit
  | .documentEnd :: rest => checkEnd rest
  | .streamEnd :: _ => .ok ()
  | tokens => do
    discard (documentStart tokens)
    throw .malformed

def content (tokens : List Token) (handles : List (String × String)) : Except Fault Document := do
  let (root, a) ← node true false (3 * tokens.length + 8) { tokens, handles }
  checkEnd a.tokens
  return ⟨a.nodes, root⟩

def startsDocument : Token → Bool
  | .versionDirective _ | .tagDirective _ _ | .otherDirective | .documentStart => true
  | _ => false

/-- The tokens in front of which the content of a document is left out. -/
def isOutside : Token → Bool
  | .documentEnd | .streamEnd => true
  | t => startsDocument t

/-- Reads a document that starts with directives or a marker. -/
def explicitDocument (tokens : List Token) : Except Fault Document := do
  let (handles, rest) ← documentStart tokens
  match rest with
  | [] => throw .malformed
  | t :: _ =>
    if isOutside t then
      checkEnd rest
      return ⟨#[.empty], 0⟩
    else content rest handles

end Ahead

/-- The document of a stream of one; none if the stream is empty. -/
def Document.ofTokens (tokens : List Token) : Except Fault (Option Document) :=
  match tokens with
  | [] => .error .malformed
  | .streamEnd :: _ => .ok none
  | t :: _ =>
    if Ahead.startsDocument t then (Ahead.explicitDocument tokens).map some
    else (Ahead.content tokens Ahead.defaultHandles).map some

end TokenScopes.Yaml
