import TokenScopes.Decimal.Layout
import TokenScopes.Text.Quoted
import TokenScopes.Value.Basic

namespace TokenScopes.Value

def commaSeparated (parts : List String) : String :=
  ", ".intercalate parts

/-- A tuple of one element keeps its comma. -/
def tupleText (parts : List String) : String :=
  match parts with
  | [p] => "(" ++ p ++ ",)"
  | ps => "(" ++ commaSeparated ps ++ ")"

def boolText (b : Bool) : String :=
  if b then "True" else "False"

def offsetText (minutes : Int) : String :=
  if minutes = 0 then "datetime.timezone.utc"
  else "datetime.timezone(" ++ durationText minutes ++ ")"

def dateParts (d : Date) : List String :=
  [toString d.year, toString d.month, toString d.day]

/-- Hours and minutes always, seconds and microseconds only up to the last that is not zero. -/
def timeParts (t : TimeOfDay) : List String :=
  [toString t.hour, toString t.minute] ++
    (if t.second = 0 ∧ t.microsecond = 0 then [] else [toString t.second]) ++
    (if t.microsecond = 0 then [] else [toString t.microsecond])

def spanText (s : Span) : String :=
  let names (ns : List Text) := tupleText (ns.map Text.quoted)
  "ExpectedSpan(source_text=" ++ Text.quoted s.source ++ ", scopes_opened=" ++ names s.opens ++
    ", scopes=" ++ names s.scopes ++ ", scopes_closed=" ++ names s.closes ++ ")"

mutual

def inner : Value → String
  | .null => "None"
  | .bool b => boolText b
  | .int i => toString i
  | .float x => Decimal.plainLayout.write x
  | .text s => Text.quoted s
  | .bytes bs => Text.quotedBytes bs
  | .date d => "datetime.date(" ++ commaSeparated (dateParts d) ++ ")"
  | .time t => "datetime.time(" ++ commaSeparated (timeParts t) ++ ")"
  | .dateTime t =>
    "datetime.datetime(" ++ commaSeparated (dateParts t.date ++ timeParts t.time ++
      (t.offset.map fun m => "tzinfo=" ++ offsetText m).toList) ++ ")"
  | .list items => "[" ++ commaSeparated (innerItems items) ++ "]"
  | .tuple items => tupleText (innerItems items)
  | .set items =>
    if items.isEmpty then "set()" else "\x7b" ++ commaSeparated (innerItems items) ++ "\x7d"
  | .map entries => "\x7b" ++ commaSeparated (innerEntries entries) ++ "\x7d"
  | .span s => spanText s

def innerItems : List Value → List String
  | [] => []
  | v :: vs => inner v :: innerItems vs

def innerEntries : List (Value × Value) → List String
  | [] => []
  | (k, v) :: rest => (inner k ++ ": " ++ inner v) :: innerEntries rest

end

/-- The text of a value by itself. -/
def display : Value → Text
  | .text s => s
  | .date d => d.iso
  | .time t => t.iso
  | .dateTime t => t.iso " "
  | v => inner v

end TokenScopes.Value
