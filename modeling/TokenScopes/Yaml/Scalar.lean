import TokenScopes.Decimal.Arithmetic
import TokenScopes.Text.Base64
import TokenScopes.Value.Basic
import TokenScopes.Yaml.Tag

namespace TokenScopes.Yaml

def baseDigit? (base : Nat) (c : Char) : Option Nat :=
  let n := match Text.digitValue? c with
    | some d => some d
    | none => Text.hexDigit? c
  n.bind fun d => if d < base then some d else none

/-- Drops the letter that names a base, after a zero. -/
def dropBaseMark (base : Nat) (cs : List Char) : List Char :=
  let mark := if base = 2 then 'b' else if base = 8 then 'o' else 'x'
  match cs with
  | '0' :: c :: rest => if c.toLower = mark then rest else cs
  | _ => cs

def readInBase (base : Nat) (cs : List CodePoint) : Except Fault Int :=
  let (negative, body) := Decimal.signed (Text.trimmed (cs.map CodePoint.toChar))
  match Decimal.groupedDigits (baseDigit? base) (dropBaseMark base body) with
  | some ds => .ok (Decimal.applySign negative (Text.ofDigits base ds))
  | none => .error (.integer base (.ofList cs))

def readDecimal (cs : List CodePoint) : Except Fault Int :=
  match Decimal.readInteger (cs.map CodePoint.toChar) with
  | .ok i => .ok i
  | .error .malformed => .error (.integer 10 (.ofList cs))
  | .error (.tooLong n) => .error (.integerTooLong n)

def numberSign : List CodePoint → Except Fault (Int × List CodePoint)
  | [] => .error .emptyNumber
  | .char '-' :: cs => .ok (-1, cs)
  | .char '+' :: cs => .ok (1, cs)
  | cs => .ok (1, cs)

def sexagesimalInt (parts : List (List CodePoint)) : Except Fault Int := do
  let values ← parts.mapM readDecimal
  return values.foldl (fun n d => n * 60 + d) 0

/-- Reads an integer without its sign: binary, hexadecimal, octal after a zero, in base sixty
between colons, or decimal. -/
def unsignedInt (cs : List CodePoint) : Except Fault Int :=
  match cs with
  | [] => .error .emptyNumber
  | [.char '0'] => .ok 0
  | .char '0' :: .char 'b' :: ds => readInBase 2 ds
  | .char '0' :: .char 'x' :: ds => readInBase 16 ds
  | .char '0' :: _ => readInBase 8 cs
  | _ =>
    if cs.contains (.char ':') then sexagesimalInt (Text.splitOn (.char ':') cs)
    else readDecimal cs

def readInt (cs : List CodePoint) : Except Fault Int := do
  let (sign, body) ← numberSign (cs.filter (· != .char '_'))
  return sign * (← unsignedInt body)

def readFloatPart (cs : List CodePoint) : Except Fault Binary64 :=
  match Decimal.readFloat (cs.map CodePoint.toChar) with
  | some x => .ok x
  | none => .error (.float (.ofList cs))

/-- The weight of a place as a floating-point number, unless it rounds beyond all of them. -/
def floatWeight (weight : Nat) : Except Fault Binary64 :=
  let x := Binary64.ofInt weight
  if x.isInfinite then .error .weightTooLarge else .ok x

/-- The sum of parts in base sixty, from the last part on. -/
def sexagesimalSum (sum : Binary64) (weight : Nat) : List Binary64 → Except Fault Binary64
  | [] => .ok sum
  | x :: rest => do
    let w ← floatWeight weight
    sexagesimalSum (sum.add (x.mul w)) (weight * 60) rest

def readFloat (cs : List CodePoint) : Except Fault Binary64 := do
  let (sign, body) ← numberSign ((cs.filter (· != .char '_')).map CodePoint.toLower)
  if Text.ofList body == ".inf" then return (if sign < 0 then Binary64.infinity.negate else .infinity)
  if Text.ofList body == ".nan" then return .nan
  let x ← if body.contains (.char ':') then do
      let parts ← (Text.splitOn (.char ':') body).mapM readFloatPart
      sexagesimalSum .zero 1 parts.reverse
    else readFloatPart body
  return if sign < 0 then x.negate else x

def readTruth (s : Text) : Except Fault Bool :=
  let lower := Text.ofList (s.toList.map CodePoint.toLower)
  if trueWords.any fun word => lower == word then .ok true
  else if falseWords.any fun word => lower == word then .ok false
  else .error (.truth lower)

def calendar {α : Type} (r : Except CalendarFault α) : Except Fault α :=
  r.mapError .calendar

/-- The date or the moment of a timestamp. The offset is checked before the date. -/
def Timestamp.toValue (t : Timestamp) : Except Fault Value :=
  match t.time with
  | none => do return .date (← calendar (Date.of t.year t.month t.day))
  | some clock => do
    let offset ← clock.offset.mapM fun m => calendar (DateTime.checkOffset m)
    let date ← calendar (Date.of t.year t.month t.day)
    let time ← calendar
      (TimeOfDay.of clock.hour clock.minute clock.second (microseconds clock.fraction))
    return .dateTime ⟨date, time, offset⟩

/-- The value of a scalar; collections are made elsewhere, and other tags have no values. -/
def scalarValue (tag : Tag) (s : Text) : Except Fault Value :=
  match tag with
  | .null => .ok .null
  | .bool => (readTruth s).map .bool
  | .int => (readInt s.toList).map .int
  | .float => (readFloat s.toList).map .float
  | .str => .ok (.text s)
  | .binary =>
    if s.toList.all fun c => c.toNat < 128 then
      match Text.decodeBase64 s.chars with
      | some bytes => .ok (.bytes bytes)
      | none => .error .malformed
    else .error .malformed
  | .timestamp =>
    match readTimestamp (dropFinalBreak s.chars) with
    | some t => t.toValue
    | none => .error .notTimestamp
  | _ => .error .malformed
where
  /-- One line end at the end does not count. -/
  dropFinalBreak (cs : List Char) : List Char :=
    if cs.getLast? == some '\n' then cs.dropLast else cs

end TokenScopes.Yaml
