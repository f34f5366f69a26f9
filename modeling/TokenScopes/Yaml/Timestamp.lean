import TokenScopes.Yaml.Fault
import TokenScopes.Text.DecimalDigit

namespace TokenScopes.Yaml

structure TimestampTime where
  hour : Nat
  minute : Nat
  second : Nat
  fraction : List Char
  /-- Minutes from universal time. -/
  offset : Option Int

structure Timestamp where
  year : Nat
  month : Nat
  day : Nat
  time : Option TimestampTime
  /-- Month and day have two digits. -/
  padded : Bool

def takeDigits (least most : Nat) (cs : List Char) : Option (List Char × List Char) :=
  let ds := (cs.take most).takeWhile Char.isDigit
  if ds.length < least then none else some (ds, cs.drop ds.length)

def digitsValue (ds : List Char) : Nat :=
  Text.ofDigits 10 (ds.filterMap Text.asciiDigit?)

def takeChar (c : Char) : List Char → Option (List Char)
  | d :: cs => if c = d then some cs else none
  | [] => none

def isBlankInLine (c : Char) : Bool :=
  c == ' ' || c == '\t'

/-- Reads `+h`, `+hh` or either with `:mm`, up to the end. -/
def readOffset (cs : List Char) : Option Int := do
  let (negative, rest) ← match cs with
    | '+' :: rest => some (false, rest)
    | '-' :: rest => some (true, rest)
    | _ => none
  let (hours, rest) ← takeDigits 1 2 rest
  let minutes ← match rest with
    | [] => some 0
    | ':' :: rest => do
      let (ds, rest) ← takeDigits 2 2 rest
      if rest.isEmpty then some (digitsValue ds) else none
    | _ => none
  let total : Int := digitsValue hours * 60 + minutes
  return if negative then -total else total

/-- Reads what may follow the seconds: nothing, `Z` or an offset. -/
def readZone (cs : List Char) : Option (Option Int) :=
  match cs with
  | [] => some none
  | _ =>
    match cs.dropWhile isBlankInLine with
    | ['Z'] => some (some 0)
    | rest => (readOffset rest).map some

def readTime (cs : List Char) : Option TimestampTime := do
  let (hour, rest) ← takeDigits 1 2 cs
  let rest ← takeChar ':' rest
  let (minute, rest) ← takeDigits 2 2 rest
  let rest ← takeChar ':' rest
  let (second, rest) ← takeDigits 2 2 rest
  let (fraction, rest) := match rest with
    | '.' :: more => more.span Char.isDigit
    | _ => ([], rest)
  let offset ← readZone rest
  return ⟨digitsValue hour, digitsValue minute, digitsValue second, fraction, offset⟩

/-- Reads a timestamp that fills the text. -/
def readTimestamp (cs : List Char) : Option Timestamp := do
  let (year, rest) ← takeDigits 4 4 cs
  let rest ← takeChar '-' rest
  let (month, rest) ← takeDigits 1 2 rest
  let rest ← takeChar '-' rest
  let (day, rest) ← takeDigits 1 2 rest
  let time ← match rest with
    | [] => some none
    | 'T' :: rest | 't' :: rest => (readTime rest).map some
    | c :: more =>
      if isBlankInLine c then (readTime (more.dropWhile isBlankInLine)).map some else none
  return ⟨digitsValue year, digitsValue month, digitsValue day, time,
    month.length == 2 && day.length == 2⟩

/-- A text that is taken for a timestamp by itself; a bare date needs all its digits. -/
def isTimestamp (cs : List Char) : Bool :=
  match readTimestamp cs with
  | some t => t.time.isSome || t.padded
  | none => false

/-- The fraction of a second in microseconds; further digits are dropped. -/
def microseconds (fraction : List Char) : Nat :=
  let ds := fraction.take 6
  digitsValue ds * 10 ^ (6 - ds.length)

end TokenScopes.Yaml
