import TokenScopes.Decimal.Literal
import TokenScopes.Value.Display

namespace TokenScopes.Value

inductive IntegerFault where
  /-- A text that is no integer, as a message shows it. -/
  | malformed (shown : String)
  | tooLong (digits : Nat)
  | nan
  | infinite
  | notNumeric (kind : String)

/-- Messages show at most this many characters of a malformed text. -/
def shownLimit : Nat := 200

def IntegerFault.message : IntegerFault → String
  | .malformed shown =>
    "invalid literal for int() with base 10: " ++ String.ofList (shown.toList.take shownLimit)
  | .tooLong digits => Decimal.tooLongMessage digits
  | .nan => "cannot convert float NaN to integer"
  | .infinite => "cannot convert float infinity to integer"
  | .notNumeric kind =>
    "int() argument must be a string, a bytes-like object or a real number, not '" ++ kind ++ "'"

def integerOfText (shown : String) (cs : List Char) : Except IntegerFault Int :=
  match Decimal.readInteger cs with
  | .ok i => .ok i
  | .error .malformed => .error (.malformed shown)
  | .error (.tooLong n) => .error (.tooLong n)

def toInteger (v : Value) : Except IntegerFault Int :=
  match v with
  | .bool b => .ok (if b then 1 else 0)
  | .int i => .ok i
  | .float x =>
    if x.isNaN then .error .nan
    else if x.isInfinite then .error .infinite
    else .ok x.truncate
  | .text s => integerOfText v.inner s.chars
  | .bytes bs =>
    if bs.all (· < 128) then
      integerOfText v.inner (bs.map fun b => Char.ofNat b.toNat)
    else .error (.malformed v.inner)
  | v => .error (.notNumeric v.operandName)

end TokenScopes.Value
