import TokenScopes.Yaml.BlockScalar
import TokenScopes.Yaml.QuotedScalar
import TokenScopes.Yaml.Token.Property

namespace TokenScopes.Yaml

/-- A place where a simple key may have started. A key is recognised only at its colon; its token is
then inserted here, together with the start of a block mapping if the key opens one. -/
structure KeyCandidate where
  /-- The number of tokens before it. -/
  position : Nat
  /-- Nothing but a key can stand there. -/
  required : Bool
  index : Nat
  line : Nat
  column : Nat

structure Lexer where
  source : Source
  /-- The tokens so far, the last first. -/
  tokens : List Token := []
  flowLevel : Nat := 0
  /-- The column of the innermost block collection, or -1. -/
  indent : Int := -1
  outerIndents : List Int := []
  keyAllowed : Bool := true
  /-- The candidates, by flow level. -/
  candidates : List (Nat × KeyCandidate) := []
  done : Bool := false

/-- A simple key fits on one line and has at most this many characters. -/
def longestKey : Nat := 1024

namespace Lexer

abbrev Step := Except Fault Lexer

def emit (l : Lexer) (t : Token) : Lexer :=
  { l with tokens := t :: l.tokens }

/-- Puts tokens behind the first `position` ones. -/
def insertAt (l : Lexer) (position : Nat) (ts : List Token) : Lexer :=
  let later := l.tokens.length - position
  { l with tokens := l.tokens.take later ++ ts.reverse ++ l.tokens.drop later }

def inFlow (l : Lexer) : Bool :=
  l.flowLevel != 0

/-- A candidate that can no longer be a key. -/
def isStale (l : Lexer) (k : KeyCandidate) : Bool :=
  k.line != l.source.line || longestKey < l.source.index - k.index

def dropStale (l : Lexer) : Step :=
  if l.candidates.any fun (_, k) => l.isStale k && k.required then .error .malformed
  else .ok { l with candidates := l.candidates.filter fun (_, k) => !l.isStale k }

def dropCandidate (l : Lexer) : Step :=
  match l.candidates.lookup l.flowLevel with
  | none => .ok l
  | some k =>
    if k.required then .error .malformed
    else .ok { l with candidates := l.candidates.filter (·.1 != l.flowLevel) }

def saveCandidate (l : Lexer) : Step := do
  if !l.keyAllowed then return l
  let l ← l.dropCandidate
  let s := l.source
  let required := !l.inFlow && l.indent == (s.column : Int)
  let k : KeyCandidate := ⟨l.tokens.length, required, s.index, s.line, s.column⟩
  return { l with candidates := (l.flowLevel, k) :: l.candidates }

/-- Ends the block collections that are indented further than a column. -/
def unwind (column : Int) : Nat → Lexer → Lexer
  | 0, l => l
  | fuel + 1, l =>
    if l.indent ≤ column then l
    else
      unwind column fuel
        { l with
          indent := l.outerIndents.headD (-1)
          outerIndents := l.outerIndents.tail
          tokens := .blockEnd :: l.tokens }

def unwindTo (l : Lexer) (column : Int) : Lexer :=
  if l.inFlow then l else unwind column (l.outerIndents.length + 1) l

/-- Starts a block collection at a column, if that is indented further. -/
def indentTo (l : Lexer) (column : Nat) : Bool × Lexer :=
  if l.indent < column then
    (true, { l with indent := column, outerIndents := l.indent :: l.outerIndents })
  else (false, l)

def allowKey (l : Lexer) (allowed : Bool) : Lexer :=
  { l with keyAllowed := allowed }

def skip (l : Lexer) (n : Nat) : Lexer :=
  { l with source := l.source.skip n }

/-- Passes spaces, comments and line ends. In a block, a new line may start with a key. -/
def skipToToken : Nat → Lexer → Lexer
  | 0, l => l
  | fuel + 1, l =>
    let s := l.source.skipSpaces
    let s := if s.peek == some '#' then s.skipLine else s
    match s.lineBreak? with
    | some (_, t) => skipToToken fuel { l with source := t, keyAllowed := l.keyAllowed || !l.inFlow }
    | none => { l with source := s }

def fetchEnd (l : Lexer) : Step := do
  let l ← (l.unwindTo (-1)).dropCandidate
  return { l.emit .streamEnd with done := true }

def fetchDirective (l : Lexer) : Step := do
  let l ← (l.unwindTo (-1)).dropCandidate
  let (token, s) ← l.source.directive
  return { (l.allowKey false).emit token with source := s }

def fetchDocumentMarker (l : Lexer) (token : Token) : Step := do
  let l ← (l.unwindTo (-1)).dropCandidate
  return ((l.allowKey false).skip 3).emit token

def fetchFlowStart (l : Lexer) (token : Token) : Step := do
  let l ← l.saveCandidate
  return (({ l with flowLevel := l.flowLevel + 1 }.allowKey true).skip 1).emit token

def fetchFlowEnd (l : Lexer) (token : Token) : Step := do
  let l ← l.dropCandidate
  return (({ l with flowLevel := l.flowLevel - 1 }.allowKey false).skip 1).emit token

def fetchFlowEntry (l : Lexer) : Step := do
  let l ← (l.allowKey true).dropCandidate
  return (l.skip 1).emit .flowEntry

/-- Starts a block collection at the current column, if one has to start. -/
def openBlock (l : Lexer) (token : Token) : Lexer :=
  match l.indentTo l.source.column with
  | (true, l) => l.emit token
  | (false, l) => l

def fetchBlockEntry (l : Lexer) : Step := do
  if !l.inFlow && !l.keyAllowed then throw .malformed
  let l := if l.inFlow then l else l.openBlock .blockSequenceStart
  let l ← (l.allowKey true).dropCandidate
  return (l.skip 1).emit .blockEntry

def fetchKey (l : Lexer) : Step := do
  if !l.inFlow && !l.keyAllowed then throw .malformed
  let l := if l.inFlow then l else l.openBlock .blockMappingStart
  let l ← (l.allowKey (!l.inFlow)).dropCandidate
  return (l.skip 1).emit .key

def insertKey (l : Lexer) (k : KeyCandidate) : Lexer :=
  let l := { l with candidates := l.candidates.filter (·.1 != l.flowLevel) }
  let l :=
    if l.inFlow then l.insertAt k.position [.key]
    else
      match l.indentTo k.column with
      | (true, l) => l.insertAt k.position [.blockMappingStart, .key]
      | (false, l) => l.insertAt k.position [.key]
  l.allowKey false

def fetchValue (l : Lexer) : Step := do
  let l ← match l.candidates.lookup l.flowLevel with
    | some k => pure (l.insertKey k)
    | none => do
      if !l.inFlow && !l.keyAllowed then throw .malformed
      let l := if l.inFlow then l else l.openBlock .blockMappingStart
      (l.allowKey (!l.inFlow)).dropCandidate
  return (l.skip 1).emit .value

/-- Fetches a token that may itself be a simple key. -/
def fetchWord (l : Lexer) (read : Source → Except Fault (Token × Source)) : Step := do
  let l ← l.saveCandidate
  let (token, s) ← read l.source
  return { (l.allowKey false).emit token with source := s }

def fetchAnchor (l : Lexer) (token : String → Token) : Step :=
  l.fetchWord fun s => s.anchorName.map fun (name, t) => (token name, t)

def fetchQuoted (l : Lexer) : Step :=
  l.fetchWord fun s => s.quotedScalar.map fun (text, t) => (.scalar (.ofList text) false, t)

def fetchPlain (l : Lexer) : Step := do
  let l ← l.saveCandidate
  let scalar := l.source.plainScalar l.inFlow (l.indent + 1)
  return { l.emit (.scalar (String.ofList scalar.text) true) with
    source := scalar.rest, keyAllowed := scalar.atLineStart }

def fetchBlock (l : Lexer) : Step := do
  let l ← (l.allowKey true).dropCandidate
  let (text, s) ← l.source.blockScalar l.indent
  return { l.emit (.scalar (String.ofList text) false) with source := s }

def isIndicator (c : Char) : Bool :=
  isBlankOrEnd (some c) || "-?:,[]\x7b\x7d#&*!|>'\"%@\x60".toList.contains c

def startsPlain (l : Lexer) (c : Char) : Bool :=
  !isIndicator c ||
    (!isBlankOrEnd (l.source.peekAt 1) && (c == '-' || (!l.inFlow && (c == '?' || c == ':'))))

/-- Fetches the token that a character starts. -/
def fetchAt (l : Lexer) (c : Char) : Step :=
  let s := l.source
  let lineStart := s.column == 0
  let blankNext := isBlankOrEnd (s.peekAt 1)
  if c == '%' && lineStart then l.fetchDirective
  else if lineStart && s.isMarker ['-', '-', '-'] then l.fetchDocumentMarker .documentStart
  else if lineStart && s.isMarker ['.', '.', '.'] then l.fetchDocumentMarker .documentEnd
  else if c == '[' then l.fetchFlowStart .flowSequenceStart
  else if c == '{' then l.fetchFlowStart .flowMappingStart
  else if c == ']' then l.fetchFlowEnd .flowSequenceEnd
  else if c == '}' then l.fetchFlowEnd .flowMappingEnd
  else if c == ',' then l.fetchFlowEntry
  else if c == '-' && blankNext then l.fetchBlockEntry
  else if c == '?' && (l.inFlow || blankNext) then l.fetchKey
  else if c == ':' && (l.inFlow || blankNext) then l.fetchValue
  else if c == '*' then l.fetchAnchor .alias
  else if c == '&' then l.fetchAnchor .anchor
  else if c == '!' then l.fetchWord Source.tag
  else if (c == '|' || c == '>') && !l.inFlow then l.fetchBlock
  else if c == '\'' || c == '"' then l.fetchQuoted
  else if l.startsPlain c then l.fetchPlain
  else .error .malformed

/-- Fetches the next token, with the block ends and keys that come to light before it. -/
def fetch (l : Lexer) : Step := do
  let l ← (skipToToken (l.source.rest.length + 1) l).dropStale
  let l := l.unwindTo l.source.column
  match l.source.peek with
  | none => l.fetchEnd
  | some c => l.fetchAt c

/-- The number of tokens that are given out before the next one is fetched: a token that may turn
out to be a key waits for those behind it. -/
def settled (l : Lexer) : Nat :=
  (l.candidates.filter fun (_, k) => !l.isStale k).foldl (fun n (_, k) => min n k.position)
    l.tokens.length

/-- The tokens that are given out before a fault. -/
def failing (l : Lexer) (f : Fault) : List Token :=
  l.tokens.reverse.take l.settled ++ [.fault f]

/-- Fetches tokens up to the end of the text or the first fault. -/
def fetchAll : Nat → Lexer → List Token
  | 0, l => l.failing .malformed
  | fuel + 1, l =>
    match l.fetch with
    | .error f => l.failing f
    | .ok next => if next.done then next.tokens.reverse else fetchAll fuel next

end Lexer

/-- The tokens of a text; the last one is the end of the stream or a fault. A byte order mark at
the start is passed over. -/
def tokenize (cs : List Char) : List Token :=
  let source : Source := ⟨cs, 0, 0, 0⟩
  let source := if source.peek == some byteOrderMark then source.next else source
  Lexer.fetchAll (cs.length + 2) { source }

end TokenScopes.Yaml
