import TokenScopes.Toml.Scalar
import TokenScopes.Toml.Table
import TokenScopes.Toml.Text

namespace TokenScopes.Toml

def require {α : Type} : Option α → Except Fault α
  | some a => .ok a
  | none => .error .malformed

def skipSpace (cs : List Char) : List Char :=
  cs.dropWhile isSpace

/-- Passes a comment, if one is in front, up to the end of the line. -/
def skipComment (cs : List Char) : Option (List Char) :=
  match cs with
  | '#' :: rest =>
    let body := rest.takeWhile (· != '\n')
    if body.any isControl then none else some (rest.drop body.length)
  | _ => some cs

/-- Passes blanks, line ends and comments; `fuel` bounds the comments. -/
def skipLines : Nat → List Char → Option (List Char)
  | 0, cs => some cs
  | fuel + 1, cs =>
    match cs.dropWhile isSpaceOrNewline with
    | '#' :: rest => (skipComment ('#' :: rest)).bind (skipLines fuel)
    | rest => some rest

def isKeyChar (c : Char) : Bool :=
  c.isAlphanum || c == '-' || c == '_'

/-- Reads one part of a key, which stands bare or in quotes. -/
def readKeyPart (cs : List Char) : Option (String × List Char) :=
  match cs.span isKeyChar with
  | ([], _) => readText false cs
  | (part, rest) => some (String.ofList part, rest)

/-- Reads a dotted key and the blanks after it; `fuel` bounds its parts. -/
def readKey : Nat → List Char → Option (List String × List Char)
  | 0, _ => none
  | fuel + 1, cs => do
    let (part, rest) ← readKeyPart cs
    match skipSpace rest with
    | '.' :: more =>
      let (parts, rest) ← readKey fuel (skipSpace more)
      return (part :: parts, rest)
    | rest => return ([part], rest)

def readAssigned (cs : List Char) : Option (List String × List Char) := do
  let (key, rest) ← readKey (cs.length + 1) cs
  match rest with
  | '=' :: rest => return (key, skipSpace rest)
  | _ => none

def readPlain (cs : List Char) : Option (Value × List Char) :=
  if "true".toList.isPrefixOf cs then some (.bool true, cs.drop 4)
  else if "false".toList.isPrefixOf cs then some (.bool false, cs.drop 5)
  else (readText true cs).map fun (s, rest) => (.text s, rest)

def startsText : List Char → Bool
  | c :: _ => c == '"' || c == '\''
  | [] => false

mutual

/-- Reads a value; `fuel` bounds the nesting and the elements. -/
def readValue : Nat → List Char → Except Fault (Value × List Char)
  | 0, _ => .error .malformed
  | fuel + 1, cs =>
    match cs with
    | '[' :: rest => do
      match ← require (skipLines rest.length rest) with
      | ']' :: rest => return (.list [], rest)
      | rest => readItems fuel [] rest
    | '{' :: rest =>
      match skipSpace rest with
      | '}' :: rest => .ok (.map [], rest)
      | rest => readFields fuel [] rest
    | cs =>
      match readPlain cs with
      | some r => .ok r
      | none => if startsText cs then .error .malformed else readScalar cs

/-- Reads the elements of a list, the next of which is in front. -/
def readItems : Nat → List Value → List Char → Except Fault (Value × List Char)
  | 0, _, _ => .error .malformed
  | fuel + 1, acc, cs => do
    let (v, rest) ← readValue fuel cs
    match ← require (skipLines rest.length rest) with
    | ']' :: rest => return (.list (v :: acc).reverse, rest)
    | ',' :: rest =>
      match ← require (skipLines rest.length rest) with
      | ']' :: rest => return (.list (v :: acc).reverse, rest)
      | rest => readItems fuel (v :: acc) rest
    | _ => throw .malformed

/-- Reads the assignments of a table in braces, the next of which is in front. -/
def readFields : Nat → Entries → List Char → Except Fault (Value × List Char)
  | 0, _, _ => .error .malformed
  | fuel + 1, es, cs => do
    let (key, rest) ← require (readAssigned cs)
    let (v, rest) ← readValue fuel rest
    let es ← require (es.assign 0 v key)
    match skipSpace rest with
    | '}' :: rest => return (.map (entryValues es), rest)
    | ',' :: rest => readFields fuel es (skipSpace rest)
    | _ => throw .malformed

end

/-- A document as far as it is read: the number and the header of the section, and all entries. -/
structure Document where
  number : Nat := 0
  header : List String := []
  entries : Entries := []

/-- Takes a header or an assignment, and gives what follows it. -/
def Document.take (d : Document) (cs : List Char) : Except Fault (Document × List Char) := do
  let next := d.number + 1
  match cs with
  | '[' :: '[' :: rest =>
    let (key, rest) ← require (readKey (cs.length + 1) (skipSpace rest))
    let es ← require (d.entries.atLast Entries.extend key)
    match rest with
    | ']' :: ']' :: rest => return (⟨next, key, es⟩, rest)
    | _ => throw .malformed
  | '[' :: rest =>
    let (key, rest) ← require (readKey (cs.length + 1) (skipSpace rest))
    let es ← require (d.entries.atLast (Entries.define next) key)
    match rest with
    | ']' :: rest => return (⟨next, key, es⟩, rest)
    | _ => throw .malformed
  | cs =>
    let (key, rest) ← require (readAssigned cs)
    let (v, rest) ← readValue (2 * cs.length + 2) rest
    let es ← require (d.entries.change (Entries.assign d.number v key) d.header)
    return ({ d with entries := es }, rest)

def endLine (cs : List Char) : Except Fault (List Char) := do
  match ← require (skipComment (skipSpace cs)) with
  | [] => return []
  | '\n' :: rest => return rest
  | _ => throw .malformed

/-- Takes line after line; `fuel` bounds their number. -/
def Document.takeAll (d : Document) : Nat → List Char → Except Fault Document
  | 0, _ => .ok d
  | fuel + 1, cs =>
    match skipSpace cs with
    | [] => .ok d
    | '\n' :: rest => d.takeAll fuel rest
    | '#' :: rest => do d.takeAll fuel (← endLine ('#' :: rest))
    | cs => do
      let (d, rest) ← d.take cs
      d.takeAll fuel (← endLine rest)

def readChars (cs : List Char) : Except Fault (List (Value × Value)) := do
  let d ← ({} : Document).takeAll (cs.length + 1) cs
  return entryValues d.entries

/-- Reads a document of version 1.0. Statements take effect one after the other, so the first that
is wrong decides what is wrong with the document. -/
def read (s : String) : Except Fault (List (Value × Value)) :=
  readChars s.toList

end TokenScopes.Toml
