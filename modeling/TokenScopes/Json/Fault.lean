import TokenScopes.Decimal.Literal

namespace TokenScopes.Json

inductive Problem where
  | value
  | propertyName
  | colon
  | comma
  | unterminated
  | control
  | escape
  | codePoint
  | extraData
  | byteOrderMark
  deriving DecidableEq

/-- A problem, or a number that is too long, at the place where `left` characters are left. -/
inductive Fault where
  | malformed (problem : Problem) (left : Nat)
  | numberTooLong (digits : Nat)
  deriving DecidableEq

def Problem.message : Problem → String
  | .value => "Expecting value"
  | .propertyName => "Expecting property name enclosed in double quotes"
  | .colon => "Expecting ':' delimiter"
  | .comma => "Expecting ',' delimiter"
  | .unterminated => "Unterminated string starting at"
  | .control => "Invalid control character at"
  | .escape => "Invalid \\escape"
  | .codePoint => "Invalid \\uXXXX escape"
  | .extraData => "Extra data"
  | .byteOrderMark => "Unexpected UTF-8 BOM (decode using utf-8-sig)"

/-- The place after the given characters, as a line, a column and an offset. -/
def place (before : List Char) : String :=
  let line := before.count '\n' + 1
  let column := (before.reverse.takeWhile (· != '\n')).length + 1
  "line " ++ toString line ++ " column " ++ toString column ++
    " (char " ++ toString before.length ++ ")"

def Problem.messageAt (p : Problem) (text : List Char) (left : Nat) : String :=
  p.message ++ ": " ++ place (text.take (text.length - left))

end TokenScopes.Json
