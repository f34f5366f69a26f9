import TokenScopes.Decimal.Literal
import TokenScopes.Value.Canonical

namespace TokenScopes.Json

inductive PrintFault where
  | notSerializable (kind : String)
  | integerTooLong
  deriving DecidableEq

def PrintFault.message : PrintFault → String
  | .notSerializable kind => "Object of type " ++ kind ++ " is not JSON serializable"
  | .integerTooLong =>
    "Exceeds the limit (" ++ toString Decimal.digitLimit ++
      " digits) for integer string conversion; use sys.set_int_max_str_digits() to increase the limit"

/-- Numbers are written as in messages, but for the names of NaN and infinity. -/
def numberLayout : Decimal.Layout :=
  { Decimal.plainLayout with nan := "NaN", infinity := "Infinity" }

def codeUnitEscape (n : Nat) : List Char :=
  '\\' :: 'u' :: Text.hexDigits 4 n

/-- A character in a string: its own escape, itself if it is printable ASCII, or the escapes of
its 16-bit units. -/
def escapeChar (c : Char) : List Char :=
  if c = '"' then ['\\', '"']
  else if c = '\\' then ['\\', '\\']
  else if c = '\n' then ['\\', 'n']
  else if c = '\r' then ['\\', 'r']
  else if c = '\t' then ['\\', 't']
  else if c = '\x08' then ['\\', 'b']
  else if c = '\x0c' then ['\\', 'f']
  else if 32 ≤ c.toNat ∧ c.toNat ≤ 126 then [c]
  else if c.toNat < 0x10000 then codeUnitEscape c.toNat
  else
    let n := c.toNat - 0x10000
    codeUnitEscape (0xD800 + n / 0x400) ++ codeUnitEscape (0xDC00 + n % 0x400)

/-- Half of a surrogate pair is a code unit by itself. -/
def escapeCode : CodePoint → List Char
  | .char c => escapeChar c
  | c => codeUnitEscape c.toNat

def renderText (s : Text) : List Char :=
  '"' :: s.toList.flatMap escapeCode ++ ['"']

def newline (depth : Nat) : List Char :=
  '\n' :: List.replicate (2 * depth) ' '

/-- Parts between brackets, each on a line of its own; none at all stay on one line. -/
def bracketed (openWith closeWith : Char) (depth : Nat) : List (List Char) → List Char
  | [] => [openWith, closeWith]
  | part :: parts =>
    openWith :: newline (depth + 1) ++ part ++
      parts.flatMap (fun p => ',' :: newline (depth + 1) ++ p) ++ newline depth ++ [closeWith]

mutual

/-- The text of a value that consists of JSON's kinds; the others have none. -/
def renderChars (depth : Nat) : Value → List Char
  | .null => "null".toList
  | .bool b => (if b then "true" else "false").toList
  | .int i => (toString i).toList
  | .float x => (numberLayout.write x).toList
  | .text s => renderText s
  | .list items => bracketed '[' ']' depth (renderItems (depth + 1) items)
  | .map entries => bracketed '{' '}' depth (renderMembers (depth + 1) entries)
  | _ => []

def renderItems (depth : Nat) : List Value → List (List Char)
  | [] => []
  | v :: vs => renderChars depth v :: renderItems depth vs

def renderMembers (depth : Nat) : List (Value × Value) → List (List Char)
  | [] => []
  | (k, v) :: rest =>
    (renderText k.display ++ ':' :: ' ' :: renderChars depth v) :: renderMembers depth rest

end

mutual

/-- The first part of a value that has no JSON text. -/
def fault? : Value → Option PrintFault
  | .int i => if i.natAbs < 10 ^ Decimal.digitLimit then none else some .integerTooLong
  | .list items => faultOfItems? items
  | .map entries => faultOfMembers? entries
  | .null | .bool _ | .float _ | .text _ => none
  | v => some (.notSerializable v.kindName)

def faultOfItems? : List Value → Option PrintFault
  | [] => none
  | v :: vs => (fault? v).or (faultOfItems? vs)

def faultOfMembers? : List (Value × Value) → Option PrintFault
  | [] => none
  | (_, v) :: rest => (fault? v).or (faultOfMembers? rest)

end

/-- The text of a value in canonical form, if it has one. -/
def prettyText (v : Value) : String :=
  String.ofList (renderChars 0 v.canonical)

def pretty (v : Value) : Except PrintFault String :=
  match fault? v.canonical with
  | some f => .error f
  | none => .ok (prettyText v)

end TokenScopes.Json
