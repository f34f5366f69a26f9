import TokenScopes.Calendar
import TokenScopes.Decimal.Literal
import TokenScopes.Text.Quoted

namespace TokenScopes.Yaml

/-- Malformed documents are not told apart; what a well-formed one lacks for a value is. -/
inductive Fault where
  /-- The text is no document, or holds what no value can be made of. -/
  | malformed
  /-- An escape names no character. -/
  | codePoint (value : Nat)
  | integer (base : Nat) (text : Text)
  | integerTooLong (digits : Nat)
  | float (text : Text)
  | truth (text : Text)
  /-- A number without any text. -/
  | emptyNumber
  | notTimestamp
  /-- A mapping in place of the text of a timestamp. -/
  | notText
  /-- A place in base sixty whose weight is beyond all floating-point numbers. -/
  | weightTooLarge
  /-- A default value that leads back to itself. -/
  | endless
  | calendar (fault : CalendarFault)

/-- The greatest number that is looked up as a code point at all. -/
def codePointLimit : Nat := 2 ^ 31 - 1

def Fault.message : Fault → String
  | .malformed => "YAML"
  | .codePoint value =>
    if value ≤ codePointLimit then "chr() arg not in range(0x110000)"
    else "Python int too large to convert to C int"
  | .integer base text =>
    "invalid literal for int() with base " ++ toString base ++ ": " ++
      String.ofList ((Text.quoted text).toList.take 200)
  | .integerTooLong digits => Decimal.tooLongMessage digits
  | .float text => "could not convert string to float: " ++ Text.quoted text
  | .truth text => Text.quoted text
  | .emptyNumber => "string index out of range"
  | .notTimestamp => "'NoneType' object has no attribute 'groupdict'"
  | .notText => "expected string or bytes-like object, got 'list'"
  | .weightTooLarge => "int too large to convert to float"
  | .endless => "maximum recursion depth exceeded"
  | .calendar fault => fault.message

end TokenScopes.Yaml
