import TokenScopes.Decimal.Binary64
import TokenScopes.Text.Blank
import TokenScopes.Text.DecimalDigit

namespace TokenScopes.Decimal

/-- The longest integer that is read or written in base ten. -/
def digitLimit : Nat := 4300

inductive IntegerFault where
  | malformed
  /-- More digits than `digitLimit`. -/
  | tooLong (digits : Nat)

def tooLongMessage (digits : Nat) : String :=
  "Exceeds the limit (" ++ toString digitLimit ++
    " digits) for integer string conversion: value has " ++ toString digits ++
    " digits; use sys.set_int_max_str_digits() to increase the limit"

/-- Splits off a sign; `true` is minus. -/
def signed : List Char → Bool × List Char
  | '-' :: cs => (true, cs)
  | '+' :: cs => (false, cs)
  | cs => (false, cs)

/-- The digits of a text in which single underscores may stand between two digits. -/
def groupedDigits (digit? : Char → Option Nat) : List Char → Option (List Nat)
  | [] => none
  | [c] => (digit? c).map ([·])
  | c :: '_' :: d :: cs =>
    match digit? c with
    | none => none
    | some n => (groupedDigits digit? (d :: cs)).map (n :: ·)
  | c :: d :: cs =>
    match digit? c with
    | none => none
    | some n => (groupedDigits digit? (d :: cs)).map (n :: ·)

def applySign (negative : Bool) (n : Nat) : Int :=
  if negative then -(n : Int) else n

/-- Reads an integer in base ten. Digits of every script count. -/
def readInteger (cs : List Char) : Except IntegerFault Int :=
  let (negative, body) := signed (Text.trimmed cs)
  match groupedDigits Text.digitValue? body with
  | none => .error .malformed
  | some ds =>
    if digitLimit < ds.length then .error (.tooLong ds.length)
    else .ok (applySign negative (Text.ofDigits 10 ds))

/-- A decimal number split into its parts: digits before and after the point and an exponent. -/
structure Parts where
  whole : List Nat
  fraction : List Nat
  exponent : Int

def Parts.toBinary (p : Parts) : Binary64 :=
  Binary64.ofDecimal (Text.ofDigits 10 (p.whole ++ p.fraction)) (p.exponent - p.fraction.length)

/-- The maximal run of digits and underscores at the front, and the rest. -/
def digitRun (cs : List Char) : List Char × List Char :=
  cs.span fun c => c == '_' || (Text.digitValue? c).isSome

def groupedOrEmpty (cs : List Char) : Option (List Nat) :=
  if cs.isEmpty then some [] else groupedDigits Text.digitValue? cs

def readExponent (cs : List Char) : Option Int :=
  let (negative, body) := signed cs
  (groupedDigits Text.digitValue? body).map fun ds => applySign negative (Text.ofDigits 10 ds)

/-- Reads `digits [. digits] [e exponent]` with digits on at least one side of the point. -/
def readParts (cs : List Char) : Option Parts :=
  let (whole, rest) := digitRun cs
  let (fraction, rest) := match rest with
    | '.' :: more => digitRun more
    | _ => ([], rest)
  if whole.isEmpty && fraction.isEmpty then none
  else
    match groupedOrEmpty whole, groupedOrEmpty fraction, rest with
    | some w, some f, [] => some ⟨w, f, 0⟩
    | some w, some f, c :: more =>
      if c == 'e' || c == 'E' then (readExponent more).map (⟨w, f, ·⟩) else none
    | _, _, _ => none

/-- Reads a floating-point number; the names of infinity and NaN count in any case. -/
def readFloat (cs : List Char) : Option Binary64 :=
  let (negative, body) := signed (Text.trimmed cs)
  let lower := String.ofList (body.map Char.toLower)
  let magnitude :=
    if lower = "inf" || lower = "infinity" then some Binary64.infinity
    else if lower = "nan" then some Binary64.nan
    else (readParts body).map Parts.toBinary
  magnitude.map fun x => if negative then x.negate else x

end TokenScopes.Decimal
