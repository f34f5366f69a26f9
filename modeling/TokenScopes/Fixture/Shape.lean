import TokenScopes.Decimal.Literal
import TokenScopes.Text.Utf8
import TokenScopes.Value.Display

namespace TokenScopes.Shape

inductive IssueKind where
  | missing
  | intType
  | intParsing
  | intParsingSize
  | intFromFloat
  | finiteNumber
  | stringType
  | stringUnicode
  | listType
  | dictType
  | modelType
  deriving DecidableEq

def IssueKind.label : IssueKind → String
  | .missing => "missing"
  | .intType => "int_type"
  | .intParsing => "int_parsing"
  | .intParsingSize => "int_parsing_size"
  | .intFromFloat => "int_from_float"
  | .finiteNumber => "finite_number"
  | .stringType => "string_type"
  | .stringUnicode => "string_unicode"
  | .listType => "list_type"
  | .dictType => "dict_type"
  | .modelType => "model_type"

structure Issue where
  place : List Text
  kind : IssueKind
  deriving DecidableEq

def Issue.location (i : Issue) : Text :=
  .intercalate "." i.place

/-- What was read, or every issue met, each with the place where it stands. Readers are lenient: a
number may come as text, a list as another collection. -/
abbrev Checked (α : Type) := Except (List Issue) α

def issue {α : Type} (kind : IssueKind) : Checked α :=
  .error [⟨[], kind⟩]

/-- Issues below a part of the value stand at that part. -/
def within {α : Type} (part : Text) (r : Checked α) : Checked α :=
  r.mapError (·.map fun i => { i with place := part :: i.place })

/-- Both results; issues of both sides are kept. -/
def both {α β γ : Type} (f : α → β → γ) : Checked α → Checked β → Checked γ
  | .ok a, .ok b => .ok (f a b)
  | .ok _, .error e => .error e
  | .error e, .ok _ => .error e
  | .error e, .error e' => .error (e ++ e')

def eachFrom {α : Type} (read : Value → Checked α) (index : Nat) : List Value → Checked (List α)
  | [] => .ok []
  | v :: rest =>
    both List.cons (within (toString index) (read v)) (eachFrom read (index + 1) rest)

/-- White space that is trimmed around a number in a text: blanks without the ASCII separators. -/
def isPadding (c : Char) : Bool :=
  Text.isBlank c && !(28 ≤ c.toNat && c.toNat ≤ 31)

def trimPadding (cs : List Char) : List Char :=
  Text.trimBy isPadding cs

/-- Drops zeros and underscores in front of a number that starts with a zero, but keeps the last
zero of a number that is zero. Nothing but a digit or a minus may start a number. -/
def dropLeadingZeros : List Char → Option (List Char)
  | '0' :: rest =>
    let isFiller (c : Char) := c == '0' || c == '_'
    match rest.dropWhile isFiller with
    | [] => (('0' :: rest).getLast?).map ([·])
    | '.' :: more => (('0' :: rest.takeWhile isFiller).getLast?).map (· :: '.' :: more)
    | c :: more => if c.isDigit then some (c :: more) else none
  | c :: rest => if c.isDigit || c == '-' then some (c :: rest) else none
  | [] => none

/-- Drops a fraction that consists of zeros. -/
def dropZeroFraction (cs : List Char) : List Char :=
  match cs.span (· != '.') with
  | (whole, '.' :: fraction) =>
    if !fraction.isEmpty && fraction.all (· == '0') then whole else cs
  | _ => cs

/-- Removes underscores, if they stand one by one and not at the ends. -/
def dropUnderscores (cs : List Char) : List Char :=
  let doubled := (cs.zip (cs.drop 1)).any fun (a, b) => a == '_' && b == '_'
  if cs.head? == some '_' || cs.getLast? == some '_' || doubled then cs
  else cs.filter (· != '_')

/-- Reads digits without a superfluous zero in front, after an optional minus. -/
def readPlainInt (cs : List Char) : Checked Int :=
  let (negative, digits) := match cs with
    | '-' :: rest => (true, rest)
    | cs => (false, cs)
  let run := digits.takeWhile Char.isDigit
  let length := if negative then run.length + 1 else run.length
  if run.isEmpty || (run.head? == some '0' && run.length ≠ 1) then issue .intParsing
  else if Decimal.digitLimit < length then issue .intParsingSize
  else if run.length ≠ digits.length then issue .intParsing
  else .ok (Decimal.applySign negative (Text.ofDigits 10 (run.filterMap Text.asciiDigit?)))

def intOfText (cs : List Char) : Checked Int :=
  let trimmed := trimPadding cs
  let unsigned := match trimmed with
    | '+' :: '-' :: _ => none
    | '+' :: rest => some rest
    | cs => some cs
  match unsigned.bind dropLeadingZeros with
  | none => issue .intParsing
  | some cs => readPlainInt (dropUnderscores (dropZeroFraction cs))

/-- A floating-point number is an integer if it has no fraction and fits into 64 bits. -/
def intOfFloat (x : Binary64) : Checked Int :=
  if !x.isFinite then issue .finiteNumber
  else
    match x.toInt? with
    | none => issue .intFromFloat
    | some i => if i.natAbs < 2 ^ 63 then .ok i else issue .intParsingSize

def readInt : Value → Checked Int
  | .int i => .ok i
  | .bool b => .ok (if b then 1 else 0)
  | .float x => intOfFloat x
  | .text s =>
    match s.plain with
    | .ok s => intOfText s.toList
    | .error _ => issue .stringUnicode
  | .bytes bs =>
    match Text.decodeUtf8 bs with
    | .ok cs => intOfText cs
    | .error _ => issue .intParsing
  | _ => issue .intType

def readText : Value → Checked Text
  | .text s => .ok s
  | .bytes bs =>
    match Text.decodeUtf8 bs with
    | .ok cs => .ok (.ofString (String.ofList cs))
    | .error _ => issue .stringUnicode
  | _ => issue .stringType

def readOptionalText : Value → Checked (Option Text)
  | .null => .ok none
  | v => (readText v).map some

def readList {α : Type} (read : Value → Checked α) : Value → Checked (List α)
  | .list items | .tuple items | .set items => eachFrom read 0 items
  | _ => issue .listType

/-- A field that may go by several names; the first name that is present counts, and an absent
field is reported under the first. -/
def fieldNamed (entries : List (Value × Value)) (names : List Text) : Option (Text × Value) :=
  names.findSome? fun n => (Value.field? entries n).map fun v => (n, v)

def required {α : Type} (entries : List (Value × Value)) (names : List Text)
    (read : Value → Checked α) : Checked α :=
  match fieldNamed entries names with
  | some (name, v) => within name (read v)
  | none => within (names.headD "") (issue .missing)

def optional {α : Type} (entries : List (Value × Value)) (name : Text) (default : α)
    (read : Value → Checked α) : Checked α :=
  match Value.field? entries name with
  | some v => within name (read v)
  | none => .ok default

/-- A record is read from a mapping; fields it does not know are ignored. -/
def readRecord {α : Type} (read : List (Value × Value) → Checked α) : Value → Checked α
  | .map entries => read entries
  | _ => issue .modelType

/-- How a key stands in a place: texts as they are, truth values as numbers. -/
def keyPlace : Value → Text
  | .text s => s
  | .bool b => if b then "1" else "0"
  | v => v.inner

def readEntries : List (Value × Value) → Checked (List (Text × Value))
  | [] => .ok []
  | (k, v) :: rest =>
    both List.cons (within (keyPlace k) (within "[key]" ((readText k).map (·, v))))
      (readEntries rest)

end TokenScopes.Shape
