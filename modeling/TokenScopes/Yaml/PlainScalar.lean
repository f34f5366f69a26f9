import TokenScopes.Yaml.Source

namespace TokenScopes.Yaml

structure PlainScalar where
  text : List Char
  rest : Source
  /-- The scan ended at the start of a line, where a key may stand. -/
  atLineStart : Bool

def isFlowIndicator (c : Char) : Bool :=
  c == ',' || c == '[' || c == ']' || c == '{' || c == '}'

/-- The characters of a scalar up to the next blank or indicator. -/
def plainRun (inFlow : Bool) : List Char → List Char
  | [] => []
  | c :: cs =>
    let colonEnds :=
      isBlankOrEnd cs.head? || (inFlow && (cs.head?.map isFlowIndicator).getD false)
    if isBlankOrEnd (some c) || (c == ':' && colonEnds) ||
        (inFlow && (isFlowIndicator c || c == '?')) then []
    else c :: plainRun inFlow cs

/-- The space before the next part of a scalar. -/
structure PlainSpace where
  text : List Char
  rest : Source
  broken : Bool
  /-- A line that starts or ends a document follows. -/
  ended : Bool

/-- Passes spaces and empty lines, and collects the line ends in reverse. -/
def plainBreaks (acc : List Char) : Nat → Source → List Char × Source × Bool
  | 0, s => (acc, s, false)
  | fuel + 1, s =>
    if s.peek == some ' ' then plainBreaks acc fuel s.next
    else
      match s.lineBreak? with
      | none => (acc, s, false)
      | some (b, t) =>
        if t.isDocumentMarker then (acc, t, true) else plainBreaks (b :: acc) fuel t

/-- What line ends are folded to: a single one to a space, several to all but the first. -/
def foldBreaks (first : Char) (others : List Char) : List Char :=
  if first != '\n' then first :: others
  else if others.isEmpty then [' ']
  else others

def plainSpace (s : Source) : PlainSpace :=
  let (spaces, t) := s.span (· == ' ')
  match t.lineBreak? with
  | none => ⟨spaces, t, false, false⟩
  | some (b, u) =>
    if u.isDocumentMarker then ⟨[], u, true, true⟩
    else
      match plainBreaks [] (u.rest.length + 1) u with
      | (_, v, true) => ⟨[], v, true, true⟩
      | (reversed, v, false) => ⟨foldBreaks b reversed.reverse, v, true, false⟩

/-- Reads parts of a scalar; `acc` holds what was read, in reverse, and `space` the space before
the next part. -/
def plainParts (inFlow : Bool) (indent : Int) (acc space : List Char) (broken : Bool) :
    Nat → Source → PlainScalar
  | 0, s => ⟨acc.reverse, s, broken⟩
  | fuel + 1, s =>
    let run := plainRun inFlow s.rest
    if s.peek == some '#' || run.isEmpty then ⟨acc.reverse, s, broken⟩
    else
      let acc := run.reverse ++ (space.reverse ++ acc)
      let after := plainSpace (s.skip run.length)
      if after.text.isEmpty || after.ended || after.rest.peek == some '#' ||
          (!inFlow && decide ((after.rest.column : Int) < indent)) then
        ⟨acc.reverse, after.rest, after.broken⟩
      else plainParts inFlow indent acc after.text after.broken fuel after.rest

/-- Reads the scalar in front; `indent` is the least column of its further lines. A scalar ends
before a comment, before the indicators of its context, and where the indentation falls back. -/
def Source.plainScalar (s : Source) (inFlow : Bool) (indent : Int) : PlainScalar :=
  plainParts inFlow indent [] [] false (s.rest.length + 1) s

end TokenScopes.Yaml
