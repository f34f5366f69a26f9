import TokenScopes.Json.Fault
import TokenScopes.Value.Key

namespace TokenScopes.Json

def isSpace (c : Char) : Bool :=
  c == ' ' || c == '\t' || c == '\n' || c == '\r'

def skipSpace (cs : List Char) : List Char :=
  cs.dropWhile isSpace

def problem (p : Problem) (rest : List Char) : Except Fault α :=
  .error (.malformed p rest.length)

/-- The character after a backslash, for the escapes of two characters. -/
def escape? : Char → Option Char
  | '"' => some '"'
  | '\\' => some '\\'
  | '/' => some '/'
  | 'b' => some '\x08'
  | 'f' => some '\x0c'
  | 'n' => some '\n'
  | 'r' => some '\r'
  | 't' => some '\t'
  | _ => none

def hexValue (ds : List Char) : Option Nat :=
  (ds.mapM Text.hexDigit?).map (Text.ofDigits 16)

/-- The character of two halves, if the first is a high one and the second a low one. -/
def joined? (first second : CodePoint) : Option Char :=
  match first, second with
  | .half h, .half l =>
    if h.val < 0x400 ∧ 0x400 ≤ l.val then
      some (Char.ofNat (0x10000 + h.val * 0x400 + (l.val - 0x400)))
    else none
  | _, _ => none

/-- Adds the code point of a `\u` escape. It makes one character with the half in front of it if
the two are a pair. -/
def addCodeUnit (acc : List CodePoint) (n : Nat) : List CodePoint :=
  match acc with
  | [] => [.ofNat n]
  | last :: before =>
    match joined? last (.ofNat n) with
    | some c => .char c :: before
    | none => .ofNat n :: last :: before

/-- Reads the rest of a string whose opening quote has `opened` characters from it on. -/
def readText (opened : Nat) (acc : List CodePoint) : List Char → Except Fault (Text × List Char)
  | [] => .error (.malformed .unterminated opened)
  | '"' :: rest => .ok (.ofList acc.reverse, rest)
  | ['\\'] => .error (.malformed .unterminated opened)
  | '\\' :: 'u' :: a :: b :: c :: d :: rest =>
    match hexValue [a, b, c, d] with
    | none => .error (.malformed .codePoint (rest.length + 5))
    | some n =>
      if rest.isEmpty then .error (.malformed .codePoint 5)
      else readText opened (addCodeUnit acc n) rest
  | '\\' :: 'u' :: rest => .error (.malformed .codePoint (rest.length + 1))
  | '\\' :: c :: rest =>
    match escape? c with
    | none => .error (.malformed .escape (rest.length + 2))
    | some e => readText opened (.char e :: acc) rest
  | c :: rest =>
    if c.toNat < 32 then .error (.malformed .control (rest.length + 1))
    else readText opened (.char c :: acc) rest

def digitsOf (cs : List Char) : List Nat :=
  cs.filterMap Text.asciiDigit?

/-- The digits after a point, and the rest; a point without digits is not read. -/
def readFraction : List Char → List Char × List Char
  | '.' :: rest =>
    match rest.span Char.isDigit with
    | ([], _) => ([], '.' :: rest)
    | found => found
  | cs => ([], cs)

/-- The exponent, and the rest; an exponent without digits is not read. -/
def readExponent : List Char → Option Int × List Char
  | c :: rest =>
    if c == 'e' || c == 'E' then
      let (negative, body) := Decimal.signed rest
      match body.span Char.isDigit with
      | ([], _) => (none, c :: rest)
      | (ds, left) => (some (Decimal.applySign negative (Text.ofDigits 10 (digitsOf ds))), left)
    else (none, c :: rest)
  | [] => (none, [])

/-- The digits before the point: a lone zero, or a run that starts with another digit. -/
def readWhole : List Char → List Char × List Char
  | '0' :: rest => (['0'], rest)
  | cs => cs.span Char.isDigit

/-- Reads a number; `start` is the text from its sign on. -/
def readNumber (start : List Char) : Except Fault (Value × List Char) :=
  let (negative, body) := match start with
    | '-' :: rest => (true, rest)
    | cs => (false, cs)
  let (whole, rest) := readWhole body
  if whole.isEmpty then problem .value start
  else
    let (fraction, rest) := readFraction rest
    let (exponent, rest) := readExponent rest
    let digits := digitsOf whole
    if fraction.isEmpty && exponent.isNone then
      if Decimal.digitLimit < digits.length then .error (.numberTooLong digits.length)
      else .ok (.int (Decimal.applySign negative (Text.ofDigits 10 digits)), rest)
    else
      let x := (Decimal.Parts.mk digits (digitsOf fraction) (exponent.getD 0)).toBinary
      .ok (.float (if negative then x.negate else x), rest)

def words : List (List Char × Value) :=
  [("null".toList, .null), ("true".toList, .bool true), ("false".toList, .bool false),
    ("NaN".toList, .float .nan), ("Infinity".toList, .float .infinity),
    ("-Infinity".toList, .float Binary64.infinity.negate)]

def readScalar (cs : List Char) : Except Fault (Value × List Char) :=
  match words.find? fun (w, _) => w.isPrefixOf cs with
  | some (w, v) => .ok (v, cs.drop w.length)
  | none => readNumber cs

mutual

/-- Reads a value whose first character is in front. The recursion is bounded by a count that
exceeds twice the number of characters, since every second call reads one. -/
def readValue : Nat → List Char → Except Fault (Value × List Char)
  | 0, cs => problem .value cs
  | fuel + 1, cs =>
    match cs with
    | '"' :: rest => do
      let (s, rest) ← readText cs.length [] rest
      return (.text s, rest)
    | '{' :: rest =>
      match skipSpace rest with
      | '}' :: rest => .ok (.map [], rest)
      | rest => readMembers fuel [] rest
    | '[' :: rest =>
      match skipSpace rest with
      | ']' :: rest => .ok (.list [], rest)
      | rest => readItems fuel [] rest
    | cs => readScalar cs

/-- Reads the elements of a list, the next of which is in front. -/
def readItems : Nat → List Value → List Char → Except Fault (Value × List Char)
  | 0, _, cs => problem .value cs
  | fuel + 1, acc, cs => do
    let (v, rest) ← readValue fuel cs
    match skipSpace rest with
    | ']' :: rest => return (.list (v :: acc).reverse, rest)
    | ',' :: rest => readItems fuel (v :: acc) (skipSpace rest)
    | rest => problem .comma rest

/-- Reads the members of a mapping, the next of which is in front. -/
def readMembers : Nat → List (Value × Value) → List Char → Except Fault (Value × List Char)
  | 0, _, cs => problem .value cs
  | fuel + 1, acc, cs =>
    match cs with
    | '"' :: rest => do
      let (key, rest) ← readText cs.length [] rest
      match skipSpace rest with
      | ':' :: rest =>
        let (v, rest) ← readValue fuel (skipSpace rest)
        let entries := Value.insert (.text key) v acc
        match skipSpace rest with
        | '}' :: rest => return (.map entries, rest)
        | ',' :: rest => readMembers fuel entries (skipSpace rest)
        | rest => problem .comma rest
      | rest => problem .colon rest
    | cs => problem .propertyName cs

end

/-- Reads a text that is one JSON value, with space around it. -/
def readChars (cs : List Char) : Except Fault Value :=
  if cs.head? = some (Char.ofNat 0xFEFF) then problem .byteOrderMark cs
  else do
    let (v, rest) ← readValue (2 * cs.length + 2) (skipSpace cs)
    match skipSpace rest with
    | [] => return v
    | rest => problem .extraData rest

def read (s : String) : Except Fault Value :=
  readChars s.toList

end TokenScopes.Json
