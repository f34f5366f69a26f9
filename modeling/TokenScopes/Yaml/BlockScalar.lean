import TokenScopes.Yaml.Fault
import TokenScopes.Yaml.Source

namespace TokenScopes.Yaml

/-- What becomes of the line ends after the last line. -/
inductive Chomping where
  | clip
  | strip
  | keep
  deriving DecidableEq

def chomping? : Option Char → Option Chomping
  | some '+' => some .keep
  | some '-' => some .strip
  | _ => none

/-- The indentation that a header gives; zero is refused. -/
def readIncrement (s : Source) : Except Fault (Option Nat × Source) :=
  match s.peek.bind fun c => if c.isDigit then some (c.toNat - 48) else none with
  | none => .ok (none, s)
  | some 0 => .error .malformed
  | some n => .ok (some n, s.next)

/-- Reads the two indicators of a header, which come in either order. -/
def readIndicators (s : Source) : Except Fault (Chomping × Option Nat × Source) := do
  let (chomping, increment, t) ← match chomping? s.peek with
    | some c => do
      let (increment, t) ← readIncrement s.next
      pure (c, increment, t)
    | none => do
      let (increment, t) ← readIncrement s
      match increment, chomping? t.peek with
      | some _, some c => pure (c, increment, t.next)
      | _, _ => pure (.clip, increment, t)
  if isSpaceOrEnd t.peek then return (chomping, increment, t) else throw .malformed

/-- Passes spaces and line ends in front of the first line; gives the line ends in reverse and the
greatest column reached. -/
def blockIndentation (acc : List Char) (deepest : Nat) : Nat → Source → List Char × Nat × Source
  | 0, s => (acc, deepest, s)
  | fuel + 1, s =>
    if s.peek == some ' ' then
      let t := s.next
      blockIndentation acc (max deepest t.column) fuel t
    else
      match s.lineBreak? with
      | some (b, t) => blockIndentation (b :: acc) deepest fuel t
      | none => (acc, deepest, s)

/-- Passes spaces up to a column. -/
def skipIndent (indent : Nat) : Nat → Source → Source
  | 0, s => s
  | fuel + 1, s =>
    if s.column < indent && s.peek == some ' ' then skipIndent indent fuel s.next else s

/-- Passes empty lines; gives their line ends in reverse. -/
def blockBreaks (indent : Nat) (acc : List Char) : Nat → Source → List Char × Source
  | 0, s => (acc, s)
  | fuel + 1, s =>
    let t := skipIndent indent indent s
    match t.lineBreak? with
    | some (b, u) => blockBreaks indent (b :: acc) fuel u
    | none => (acc, t)

def isIndented (c : Option Char) : Bool :=
  c == some ' ' || c == some '\t'

/-- The lines of a scalar: its text so far in reverse, the last line end, and the line ends that
follow it. -/
structure BlockLines where
  text : List Char
  lastBreak : List Char
  breaks : List Char
  rest : Source

/-- Reads line after line. A line end between two lines that are not indented further is folded to
a space, or dropped if empty lines follow. -/
def blockLines (folded : Bool) (indent : Nat) : Nat → BlockLines → BlockLines
  | 0, b => b
  | fuel + 1, b =>
    let s := b.rest
    if s.column != indent || s.peek.isNone then b
    else
      let (line, t) := s.span (!isBreak ·)
      let text := line.reverse ++ (b.breaks.reverse ++ b.text)
      let (lastBreak, u) := match t.lineBreak? with
        | some (c, u) => ([c], u)
        | none => ([], t)
      let (reversed, v) := blockBreaks indent [] (u.rest.length + 1) u
      let breaks := reversed.reverse
      if v.column != indent || v.peek.isNone then ⟨text, lastBreak, breaks, v⟩
      else
        let foldable := folded && lastBreak == ['\n'] && !isIndented s.peek && !isIndented v.peek
        let text :=
          if !foldable then lastBreak ++ text
          else if breaks.isEmpty then ' ' :: text
          else text
        blockLines folded indent fuel ⟨text, [], breaks, v⟩

/-- Reads the scalar whose indicator is in front; `parent` is the indentation around it. -/
def Source.blockScalar (s : Source) (parent : Int) : Except Fault (List Char × Source) := do
  let folded := s.peek == some '>'
  let (chomping, increment, t) ← readIndicators s.next
  match t.ignoredLine? with
  | none => throw .malformed
  | some t =>
    let least := (max (parent + 1) 1).toNat
    let (indent, reversed, u) := match increment with
      | none =>
        let (reversed, deepest, u) := blockIndentation [] 0 (t.rest.length + 1) t
        (max least deepest, reversed, u)
      | some n =>
        let indent := least + n - 1
        let (reversed, u) := blockBreaks indent [] (t.rest.length + 1) t
        (indent, reversed, u)
    let lines := blockLines folded indent (u.rest.length + 1) ⟨[], [], reversed.reverse, u⟩
    let text := lines.text.reverse
    let text := if chomping == .strip then text else text ++ lines.lastBreak
    return (if chomping == .keep then text ++ lines.breaks else text, lines.rest)

end TokenScopes.Yaml
