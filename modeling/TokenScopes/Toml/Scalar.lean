import TokenScopes.Decimal.Literal
import TokenScopes.Value.Basic

namespace TokenScopes.Toml

inductive Fault where
  | malformed
  | numberTooLong (digits : Nat)
  deriving DecidableEq

/-- The digits that go on a number, each with an underscore before it or not. -/
def moreDigits (digit? : Char → Option Nat) : List Char → List Nat × List Char
  | '_' :: c :: rest =>
    match digit? c with
    | some d =>
      let (ds, rest) := moreDigits digit? rest
      (d :: ds, rest)
    | none => ([], '_' :: c :: rest)
  | c :: rest =>
    match digit? c with
    | some d =>
      let (ds, rest) := moreDigits digit? rest
      (d :: ds, rest)
    | none => ([], c :: rest)
  | [] => ([], [])

/-- Reads digits, the first of which has no underscore before it. -/
def readDigits (digit? : Char → Option Nat) : List Char → Option (List Nat × List Char)
  | [] => none
  | c :: rest => do
    let d ← digit? c
    let (ds, rest) := moreDigits digit? rest
    return (d :: ds, rest)

def below (base : Nat) (c : Char) : Option Nat :=
  (Text.hexDigit? c).filter (· < base)

/-- The base that a letter after a zero names. -/
def baseOf? : Char → Option Nat
  | 'x' => some 16
  | 'o' => some 8
  | 'b' => some 2
  | _ => none

/-- Reads a number in a base that its start names. -/
def readBased : List Char → Option (Int × List Char)
  | '0' :: mark :: rest => do
    let base ← baseOf? mark
    let (ds, rest) ← readDigits (below base) rest
    return (Text.ofDigits base ds, rest)
  | _ => none

/-- Reads a lone zero, or digits that start with another. -/
def readWhole : List Char → Option (List Nat × List Char)
  | '0' :: rest => some ([0], rest)
  | cs => readDigits Text.asciiDigit? cs

/-- The digits after a point; a point without digits is not read. -/
def readFraction (cs : List Char) : Option (List Nat × List Char) :=
  match cs with
  | '.' :: rest => readDigits Text.asciiDigit? rest
  | _ => none

/-- The exponent; a letter without digits is not read. -/
def readExponent : List Char → Option (Int × List Char)
  | [] => none
  | c :: rest =>
    if c == 'e' || c == 'E' then do
      let (negative, body) := Decimal.signed rest
      let (ds, rest) ← readDigits Text.asciiDigit? body
      return (Decimal.applySign negative (Text.ofDigits 10 ds), rest)
    else none

def readDecimal (cs : List Char) : Option (Except Fault (Value × List Char)) :=
  let (negative, body) := Decimal.signed cs
  match readWhole body with
  | none => none
  | some (whole, rest) =>
    let fraction := readFraction rest
    let rest := (fraction.map Prod.snd).getD rest
    let exponent := readExponent rest
    let rest := (exponent.map Prod.snd).getD rest
    if fraction.isNone && exponent.isNone then
      if Decimal.digitLimit < whole.length then some (.error (.numberTooLong whole.length))
      else some (.ok (.int (Decimal.applySign negative (Text.ofDigits 10 whole)), rest))
    else
      let x := (Decimal.Parts.mk whole ((fraction.map Prod.fst).getD [])
        ((exponent.map Prod.fst).getD 0)).toBinary
      some (.ok (.float (if negative then x.negate else x), rest))

def floatWords : List (List Char × Binary64) :=
  [("inf".toList, .infinity), ("+inf".toList, .infinity), ("-inf".toList, Binary64.infinity.negate),
    ("nan".toList, .nan), ("+nan".toList, .nan), ("-nan".toList, .nan)]

def readPair (least most : Nat) : List Char → Option (Nat × List Char)
  | a :: b :: rest => do
    let n := (← Text.asciiDigit? a) * 10 + (← Text.asciiDigit? b)
    if least ≤ n ∧ n ≤ most then some (n, rest) else none
  | _ => none

def readMark (mark : Char) : List Char → Option (List Char)
  | c :: rest => if c = mark then some rest else none
  | [] => none

/-- The fraction of a second in microseconds, from its point on; further digits are dropped. -/
def readMicroseconds (cs : List Char) : Nat × List Char :=
  match cs with
  | '.' :: rest =>
    let ds := rest.takeWhile Char.isDigit
    if ds.isEmpty then (0, cs)
    else
      let kept := (ds.take 6).filterMap Text.asciiDigit?
      (Text.ofDigits 10 kept * 10 ^ (6 - kept.length), rest.drop ds.length)
  | _ => (0, cs)

def readTime (cs : List Char) : Option (TimeOfDay × List Char) := do
  let (hour, rest) ← readPair 0 23 cs
  let (minute, rest) ← readPair 0 59 (← readMark ':' rest)
  let (second, rest) ← readPair 0 59 (← readMark ':' rest)
  let (microsecond, rest) := readMicroseconds rest
  return (⟨hour, minute, second, microsecond⟩, rest)

def readOffset : List Char → Option (Int × List Char)
  | 'Z' :: rest | 'z' :: rest => some (0, rest)
  | sign :: rest =>
    if sign == '+' || sign == '-' then do
      let (hours, rest) ← readPair 0 23 rest
      let (minutes, rest) ← readPair 0 59 (← readMark ':' rest)
      return (Decimal.applySign (sign == '-') (hours * 60 + minutes), rest)
    else none
  | [] => none

/-- Reads year, month and day, which need not make a date. -/
def readDay (cs : List Char) : Option ((Nat × Nat × Nat) × List Char) := do
  let (century, rest) ← readPair 0 99 cs
  let (year, rest) ← readPair 0 99 rest
  let (month, rest) ← readPair 1 12 (← readMark '-' rest)
  let (day, rest) ← readPair 1 31 (← readMark '-' rest)
  return ((century * 100 + year, month, day), rest)

/-- Reads the time of day that may follow a date. -/
def readTimeAfterDay : List Char → Option (TimeOfDay × List Char)
  | c :: rest => if c == 'T' || c == 't' || c == ' ' then readTime rest else none
  | [] => none

/-- Reads a date, or a date with a time of day and maybe an offset, if one is in front. -/
def readDateTime (cs : List Char) : Option (Except Fault (Value × List Char)) := do
  let ((year, month, day), rest) ← readDay cs
  match Date.of year month day with
  | .error _ => return .error .malformed
  | .ok date =>
    match readTimeAfterDay rest with
    | none => return .ok (.date date, rest)
    | some (time, rest) =>
      match readOffset rest with
      | none => return .ok (.dateTime ⟨date, time, none⟩, rest)
      | some (offset, rest) => return .ok (.dateTime ⟨date, time, some offset⟩, rest)

def readWord (cs : List Char) : Option (Value × List Char) :=
  match floatWords.find? fun (w, _) => w.isPrefixOf cs with
  | some (w, x) => some (.float x, cs.drop w.length)
  | none => none

def readScalar (cs : List Char) : Except Fault (Value × List Char) :=
  match readDateTime cs with
  | some r => r
  | none =>
    match readTime cs with
    | some (t, rest) => .ok (.time t, rest)
    | none =>
      match readBased cs with
      | some (n, rest) => .ok (.int n, rest)
      | none =>
        match readDecimal cs with
        | some r => r
        | none =>
          match readWord cs with
          | some r => .ok r
          | none => .error .malformed

end TokenScopes.Toml
