import TokenScopes.Text.Utf8
import TokenScopes.Yaml.Source
import TokenScopes.Yaml.Token

namespace TokenScopes.Yaml

/-- Reads the name of an anchor or an alias, whose indicator is in front. -/
def Source.anchorName (s : Source) : Except Fault (String × Source) :=
  let (name, t) := s.next.span isNameChar
  let ends := match t.peek with
    | some c => isBlankOrEnd (some c) || "?:,]\x7d%@\x60".toList.contains c
    | none => true
  if name.isEmpty || !ends then .error .malformed else .ok (String.ofList name, t)

/-- Reads a tag handle: an exclamation mark, or a name between two. -/
def Source.tagHandle (s : Source) : Except Fault (String × Source) :=
  if s.peek != some '!' then .error .malformed
  else if s.peekAt 1 == some ' ' then .ok ("!", s.next)
  else
    let (name, t) := s.next.span isNameChar
    if t.peek == some '!' then .ok (String.ofList ('!' :: name ++ ['!']), t.next)
    else .error .malformed

def isUriChar (c : Char) : Bool :=
  c.isAlphanum || "-;/?:@&=+$,_.!~*'()[]".toList.contains c

def uriBytes (acc : List UInt8) : Nat → Source → Except Fault (List UInt8 × Source)
  | 0, s => .ok (acc.reverse, s)
  | fuel + 1, s =>
    match s.rest with
    | '%' :: a :: b :: _ =>
      match Text.hexDigit? a, Text.hexDigit? b with
      | some x, some y => uriBytes ((x * 16 + y).toUInt8 :: acc) fuel (s.skip 3)
      | _, _ => .error .malformed
    | '%' :: _ => .error .malformed
    | _ => .ok (acc.reverse, s)

/-- Reads the characters of a tag, where percent escapes stand for UTF-8. -/
def uriChars (acc : List Char) : Nat → Source → Except Fault (List Char × Source)
  | 0, s => .ok (acc.reverse, s)
  | fuel + 1, s =>
    let (run, t) := s.span isUriChar
    let acc := run.reverse ++ acc
    if t.peek == some '%' then
      match uriBytes [] (t.rest.length + 1) t with
      | .error e => .error e
      | .ok (bytes, u) =>
        match Text.decodeUtf8 bytes with
        | .error _ => .error .malformed
        | .ok cs => uriChars (cs.reverse ++ acc) fuel u
    else .ok (acc.reverse, t)

def Source.uri (s : Source) : Except Fault (String × Source) :=
  match uriChars [] (s.rest.length + 1) s with
  | .error e => .error e
  | .ok (cs, t) =>
    if t.index == s.index then .error .malformed else .ok (String.ofList cs, t)

/-- Reads a tag. It is given in full between angle brackets, or by a handle and a suffix, or it is
a lone exclamation mark. -/
def Source.tag (s : Source) : Except Fault (Token × Source) := do
  let (token, t) ←
    if s.peekAt 1 == some '<' then do
      let (suffix, t) ← (s.skip 2).uri
      if t.peek == some '>' then pure (Token.tag none suffix, t.next) else throw .malformed
    else if isBlankOrEnd (s.peekAt 1) then pure (Token.tag none "!", s.next)
    else
      let word := s.next.rest.takeWhile fun c => !isSpaceOrEnd (some c)
      if word.contains '!' then do
        let (handle, t) ← s.tagHandle
        let (suffix, u) ← t.uri
        pure (Token.tag (some handle) suffix, u)
      else do
        let (suffix, u) ← s.next.uri
        pure (Token.tag (some "!") suffix, u)
  if isSpaceOrEnd t.peek then return (token, t) else throw .malformed

def Source.decimal (s : Source) : Except Fault (Nat × Source) :=
  let (ds, t) := s.span Char.isDigit
  if ds.isEmpty then .error .malformed
  else if Decimal.digitLimit < ds.length then .error (.integerTooLong ds.length)
  else .ok (Text.ofDigits 10 (ds.filterMap Text.asciiDigit?), t)

def Source.version (s : Source) : Except Fault (Token × Source) := do
  let (major, t) ← s.skipSpaces.decimal
  if t.peek != some '.' then throw .malformed
  let (_, u) ← t.next.decimal
  if isSpaceOrEnd u.peek then return (.versionDirective major, u) else throw .malformed

def Source.tagDefinition (s : Source) : Except Fault (Token × Source) := do
  let (handle, t) ← s.skipSpaces.tagHandle
  if t.peek != some ' ' then throw .malformed
  let (start, u) ← t.skipSpaces.uri
  if isSpaceOrEnd u.peek then return (.tagDirective handle start, u) else throw .malformed

/-- Reads the directive whose percent sign is in front. -/
def Source.directive (s : Source) : Except Fault (Token × Source) := do
  let (name, t) := s.next.span isNameChar
  if name.isEmpty || !isSpaceOrEnd t.peek then throw .malformed
  let (token, u) ←
    if name == "YAML".toList then t.version
    else if name == "TAG".toList then t.tagDefinition
    else pure (.otherDirective, t.skipLine)
  match u.ignoredLine? with
  | some v => return (token, v)
  | none => throw .malformed

end TokenScopes.Yaml
