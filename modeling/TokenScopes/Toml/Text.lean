import TokenScopes.Text.DecimalDigit

namespace TokenScopes.Toml

def isSpace (c : Char) : Bool :=
  c == ' ' || c == '\t'

def isSpaceOrNewline (c : Char) : Bool :=
  isSpace c || c == '\n'

/-- Control characters other than the tab stand nowhere but as escapes. -/
def isControl (c : Char) : Bool :=
  (c.toNat < 32 || c.toNat == 127) && c != '\t'

/-- Texts over several lines may also hold line feeds. -/
def isForbidden (multiline : Bool) (c : Char) : Bool :=
  isControl c && !(multiline && c == '\n')

/-- The character that a letter after a backslash stands for. -/
def escape? : Char → Option Char
  | 'b' => some '\x08'
  | 't' => some '\t'
  | 'n' => some '\n'
  | 'f' => some '\x0c'
  | 'r' => some '\r'
  | '"' => some '"'
  | '\\' => some '\\'
  | _ => none

/-- Reads a character by its number, of a fixed count of hexadecimal digits. -/
def readCodePoint (width : Nat) (cs : List Char) : Option (List Char × List Char) :=
  let ds := (cs.take width).filterMap Text.hexDigit?
  let n := Text.ofDigits 16 ds
  if ds.length = width ∧ n.isValidChar then some ([Char.ofNat n], cs.drop width) else none

/-- Reads what follows a backslash: the characters it stands for, and the rest. A backslash at the
end of a line joins it with the next text, blanks and empty lines aside. -/
def readEscape (multiline : Bool) : List Char → Option (List Char × List Char)
  | [] => none
  | 'u' :: rest => readCodePoint 4 rest
  | 'U' :: rest => readCodePoint 8 rest
  | c :: rest =>
    if multiline && isSpaceOrNewline c then
      match (c :: rest).dropWhile isSpace with
      | [] => some ([], [])
      | d :: more => if d = '\n' then some ([], more.dropWhile isSpaceOrNewline) else none
    else (escape? c).map ([·], rest)

/-- Reads up to the closing quotes, with escapes; `fuel` bounds the characters. -/
def readEscaped (multiline : Bool) (acc : List Char) :
    Nat → List Char → Option (List Char × List Char)
  | 0, _ => none
  | _, [] => none
  | fuel + 1, '"' :: rest =>
    if !multiline then some (acc.reverse, rest)
    else
      match rest with
      | '"' :: '"' :: after => some (acc.reverse, after)
      | _ => readEscaped multiline ('"' :: acc) fuel rest
  | fuel + 1, '\\' :: rest =>
    match readEscape multiline rest with
    | none => none
    | some (added, after) => readEscaped multiline (added.reverse ++ acc) fuel after
  | fuel + 1, c :: rest =>
    if isForbidden multiline c then none else readEscaped multiline (c :: acc) fuel rest

def readLiteral (cs : List Char) : Option (List Char × List Char) :=
  match cs.span (· != '\'') with
  | (body, '\'' :: rest) => if body.any isControl then none else some (body, rest)
  | _ => none

def readLiteralLines (acc : List Char) : List Char → Option (List Char × List Char)
  | '\'' :: '\'' :: '\'' :: rest => some (acc.reverse, rest)
  | c :: rest => if isForbidden true c then none else readLiteralLines (c :: acc) rest
  | [] => none

/-- Up to two more quotes at the end of a text over several lines belong to it. -/
def takeQuotes (quote : Char) (body rest : List Char) : List Char × List Char :=
  let more := (rest.take 2).takeWhile (· == quote)
  (body ++ more, rest.drop more.length)

/-- A line feed right after the opening quotes does not count. -/
def dropFirstNewline : List Char → List Char
  | '\n' :: rest => rest
  | cs => cs

/-- Reads a text from its opening quote on; only values may go over several lines. -/
def readText (multiline : Bool) (cs : List Char) : Option (String × List Char) :=
  let found := match cs with
    | '"' :: rest =>
      match multiline, rest with
      | true, '"' :: '"' :: more =>
        (readEscaped true [] (cs.length + 1) (dropFirstNewline more)).map fun (body, rest) =>
          takeQuotes '"' body rest
      | _, _ => readEscaped false [] (cs.length + 1) rest
    | '\'' :: rest =>
      match multiline, rest with
      | true, '\'' :: '\'' :: more =>
        (readLiteralLines [] (dropFirstNewline more)).map fun (body, rest) =>
          takeQuotes '\'' body rest
      | _, _ => readLiteral rest
    | _ => none
  found.map fun (body, rest) => (String.ofList body, rest)

end TokenScopes.Toml
