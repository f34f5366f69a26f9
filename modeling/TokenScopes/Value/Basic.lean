import TokenScopes.Calendar
import TokenScopes.Decimal.Binary64
import TokenScopes.Span

namespace TokenScopes

/-- What a JSON, YAML or TOML document denotes before it is checked for a shape. A mapping is a list
of entries in the order of their first insertion. -/
inductive Value where
  | null
  | bool (b : Bool)
  | int (i : Int)
  | float (x : Binary64)
  | text (s : Text)
  | bytes (bs : List UInt8)
  | date (d : Date)
  | time (t : TimeOfDay)
  | dateTime (t : DateTime)
  | list (items : List Value)
  | tuple (items : List Value)
  | set (items : List Value)
  | map (entries : List (Value × Value))
  /-- An expected span that was built beforehand. -/
  | span (s : Span)
  deriving Inhabited

namespace Value

def kindName : Value → String
  | .null => "NoneType"
  | .bool _ => "bool"
  | .int _ => "int"
  | .float _ => "float"
  | .text _ => "str"
  | .bytes _ => "bytes"
  | .date _ => "date"
  | .time _ => "time"
  | .dateTime _ => "datetime"
  | .list _ => "list"
  | .tuple _ => "tuple"
  | .set _ => "set"
  | .map _ => "dict"
  | .span _ => "ExpectedSpan"

/-- The name of a value's kind as messages about unfit operands write it: kinds of the calendar are
named with their module. -/
def operandName (v : Value) : String :=
  match v with
  | .date _ | .time _ | .dateTime _ => "datetime." ++ v.kindName
  | v => v.kindName

def isNull : Value → Bool
  | .null => true
  | _ => false

def ofTexts (ss : List Text) : Value :=
  .list (ss.map .text)

def ofFields (fields : List (Text × Value)) : Value :=
  .map (fields.map fun (k, v) => (.text k, v))

/-- The elements a value is made of when it is walked through: a mapping yields its keys and a
text its code points. Scalars have none. -/
def elements? : Value → Option (List Value)
  | .list items | .tuple items | .set items => some items
  | .map entries => some (entries.map Prod.fst)
  | .text s => some (s.toList.map fun c => .text (Text.singleton c))
  | .bytes bs => some (bs.map fun b => .int b.toNat)
  | _ => none

def field? (entries : List (Value × Value)) (key : Text) : Option Value :=
  match entries with
  | [] => none
  | (.text k, v) :: rest => if k = key then some v else field? rest key
  | _ :: rest => field? rest key

end Value

end TokenScopes
