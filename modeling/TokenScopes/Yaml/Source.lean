namespace TokenScopes.Yaml

/-- What is left of a document while it is read, and where that stands. -/
structure Source where
  rest : List Char
  index : Nat := 0
  line : Nat := 0
  column : Nat := 0

def isBreak (c : Char) : Bool :=
  c == '\n' || c == '\r' || c == '\x85' || c == '\u2028' || c == '\u2029'

/-- A space or a line end, or nothing at all. -/
def isSpaceOrEnd : Option Char → Bool
  | none => true
  | some c => c == ' ' || isBreak c

/-- Like `isSpaceOrEnd`, with the tab. -/
def isBlankOrEnd : Option Char → Bool
  | some '\t' => true
  | c => isSpaceOrEnd c

def isBreakOrEnd : Option Char → Bool
  | none => true
  | some c => isBreak c

def isAllowed (c : Char) : Bool :=
  let n := c.toNat
  n == 9 || n == 10 || n == 13 || (0x20 ≤ n && n ≤ 0x7E) || n == 0x85 ||
    (0xA0 ≤ n && n ≤ 0xD7FF) || (0xE000 ≤ n && n ≤ 0xFFFD) || 0x10000 ≤ n

def isNameChar (c : Char) : Bool :=
  c.isAlphanum || c == '-' || c == '_'

def byteOrderMark : Char := Char.ofNat 0xFEFF

namespace Source

def peek (s : Source) : Option Char :=
  s.rest.head?

def peekAt (s : Source) (n : Nat) : Option Char :=
  s.rest[n]?

/-- Passes one character. A carriage return before a line feed does not end the line by itself,
and a byte order mark takes no column. -/
def next (s : Source) : Source :=
  match s.rest with
  | [] => s
  | c :: rest =>
    if isBreak c && !(c == '\r' && rest.head? == some '\n') then
      ⟨rest, s.index + 1, s.line + 1, 0⟩
    else if c == byteOrderMark then ⟨rest, s.index + 1, s.line, s.column⟩
    else ⟨rest, s.index + 1, s.line, s.column + 1⟩

def skip : Nat → Source → Source
  | 0, s => s
  | n + 1, s => s.next.skip n

def span (p : Char → Bool) (s : Source) : List Char × Source :=
  let run := s.rest.takeWhile p
  (run, s.skip run.length)

def skipSpaces (s : Source) : Source :=
  (s.span (· == ' ')).2

def skipLine (s : Source) : Source :=
  (s.span (!isBreak ·)).2

/-- The line end in front, if there is one, as the character it stands for. -/
def lineBreak? (s : Source) : Option (Char × Source) :=
  match s.rest with
  | '\r' :: '\n' :: _ => some ('\n', s.skip 2)
  | '\u2028' :: _ => some ('\u2028', s.next)
  | '\u2029' :: _ => some ('\u2029', s.next)
  | c :: _ => if isBreak c then some ('\n', s.next) else none
  | [] => none

def skipBreak (s : Source) : Source :=
  match s.lineBreak? with
  | some (_, t) => t
  | none => s

/-- Passes spaces and a comment, which must fill the rest of the line. -/
def ignoredLine? (s : Source) : Option Source :=
  let t := s.skipSpaces
  let t := if t.peek == some '#' then t.skipLine else t
  if isBreakOrEnd t.peek then some t.skipBreak else none

/-- Whether three given characters stand in front, followed by a blank. -/
def isMarker (s : Source) (marker : List Char) : Bool :=
  marker.isPrefixOf s.rest && isBlankOrEnd (s.peekAt 3)

/-- Whether a line that starts or ends a document stands in front. -/
def isDocumentMarker (s : Source) : Bool :=
  s.isMarker ['-', '-', '-'] || s.isMarker ['.', '.', '.']

end Source

end TokenScopes.Yaml
