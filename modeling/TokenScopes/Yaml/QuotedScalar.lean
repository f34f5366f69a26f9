import TokenScopes.Yaml.Fault
import TokenScopes.Yaml.PlainScalar

namespace TokenScopes.Yaml

def simpleEscape? : Char → Option Char
  | '0' => some '\x00'
  | 'a' => some '\x07'
  | 'b' => some '\x08'
  | 't' => some '\t'
  | '\t' => some '\t'
  | 'n' => some '\n'
  | 'v' => some '\x0b'
  | 'f' => some '\x0c'
  | 'r' => some '\r'
  | 'e' => some '\x1b'
  | ' ' => some ' '
  | '"' => some '"'
  | '\\' => some '\\'
  | '/' => some '/'
  | 'N' => some '\x85'
  | '_' => some '\xa0'
  | 'L' => some '\u2028'
  | 'P' => some '\u2029'
  | _ => none

/-- The number of digits after a letter that starts a numeric escape. -/
def escapeWidth? : Char → Option Nat
  | 'x' => some 2
  | 'u' => some 4
  | 'U' => some 8
  | _ => none

/-- Passes empty lines and indentation after a line end, and collects the line ends in reverse. -/
def quotedBreaks (acc : List Char) : Nat → Source → Except Fault (List Char × Source)
  | 0, s => .ok (acc, s)
  | fuel + 1, s =>
    if s.isDocumentMarker then .error .malformed
    else
      let t := (s.span fun c => c == ' ' || c == '\t').2
      match t.lineBreak? with
      | none => .ok (acc, t)
      | some (b, u) => quotedBreaks (b :: acc) fuel u

def isPlainInQuotes (c : Char) : Bool :=
  !(c == '\'' || c == '"' || c == '\\' || c == ' ' || c == '\t' || isBreak c)

/-- Reads the escape after a backslash: the code points it stands for, in reverse. Half of a
surrogate pair may be escaped, and two halves are not joined. -/
def readEscape (s : Source) : Except Fault (List CodePoint × Source) :=
  match s.peek with
  | none => .error .malformed
  | some c =>
    match simpleEscape? c, escapeWidth? c with
    | some e, _ => .ok ([e], s.next)
    | none, some width =>
      let digits := s.next.rest.take width
      match digits.mapM Text.hexDigit? with
      | none => .error .malformed
      | some ds =>
        let code := Text.ofDigits 16 ds
        if digits.length < width then .error .malformed
        else if 0x110000 ≤ code then .error (.codePoint code)
        else .ok ([.ofNat code], s.next.skip width)
    | none, none =>
      match s.lineBreak? with
      | none => .error .malformed
      | some (_, t) =>
        (quotedBreaks [] (t.rest.length + 1) t).map fun (reversed, u) =>
          (reversed.map .char, u)

/-- Reads what follows in front of a space: plain characters, quotes that do not end the scalar,
and escapes. -/
def quotedText (double : Bool) (acc : List CodePoint) :
    Nat → Source → Except Fault (List CodePoint × Source)
  | 0, s => .ok (acc, s)
  | fuel + 1, s =>
    let (run, t) := s.span isPlainInQuotes
    let acc := run.reverse.map .char ++ acc
    match t.peek with
    | some '\'' =>
      if double then quotedText double (.char '\'' :: acc) fuel t.next
      else if t.peekAt 1 == some '\'' then quotedText double (.char '\'' :: acc) fuel (t.skip 2)
      else .ok (acc, t)
    | some '"' => if double then .ok (acc, t) else quotedText double (.char '"' :: acc) fuel t.next
    | some '\\' =>
      if double then
        match readEscape t.next with
        | .error e => .error e
        | .ok (cs, u) => quotedText double (cs ++ acc) fuel u
      else quotedText double (.char '\\' :: acc) fuel t.next
    | _ => .ok (acc, t)

/-- Reads space inside quotes; line ends are folded. -/
def quotedSpace (s : Source) : Except Fault (List Char × Source) :=
  let (spaces, t) := s.span fun c => c == ' ' || c == '\t'
  if t.peek.isNone then .error .malformed
  else
    match t.lineBreak? with
    | none => .ok (spaces, t)
    | some (b, u) =>
      match quotedBreaks [] (u.rest.length + 1) u with
      | .error e => .error e
      | .ok (reversed, v) => .ok (foldBreaks b reversed.reverse, v)

/-- Reads text and space in turn up to the closing quote. -/
def quotedParts (double : Bool) (acc : List CodePoint) :
    Nat → Source → Except Fault (List CodePoint × Source)
  | 0, _ => .error .malformed
  | fuel + 1, s =>
    match quotedText double acc (s.rest.length + 1) s with
    | .error e => .error e
    | .ok (acc, t) =>
      if t.peek == some (if double then '"' else '\'') then .ok (acc.reverse, t.next)
      else
        match quotedSpace t with
        | .error e => .error e
        | .ok (space, u) => quotedParts double (space.reverse.map .char ++ acc) fuel u

def Source.quotedScalar (s : Source) : Except Fault (List CodePoint × Source) :=
  quotedParts (s.peek == some '"') [] (s.rest.length + 1) s.next

end TokenScopes.Yaml
