import TokenScopes.Text.Basic
import TokenScopes.Text.DecimalDigit
import TokenScopes.Text.Printable

namespace TokenScopes.Text

/-- Single quotes enclose, unless there is one inside and no double quote. -/
def enclosingQuote (hasSingle hasDouble : Bool) : Char :=
  if hasSingle && !hasDouble then '"' else '\''

/-- The escape that is shared by texts and bytes, if a character has one. -/
def commonEscape? (quote c : Char) : Option (List Char) :=
  if c == quote || c == '\\' then some ['\\', c]
  else if c == '\n' then some ['\\', 'n']
  else if c == '\r' then some ['\\', 'r']
  else if c == '\t' then some ['\\', 't']
  else none

/-- A code point by its number, in the shortest of three widths. -/
def numericEscape (n : Nat) : List Char :=
  if n < 0x100 then '\\' :: 'x' :: hexDigits 2 n
  else if n < 0x10000 then '\\' :: 'u' :: hexDigits 4 n
  else '\\' :: 'U' :: hexDigits 8 n

def quoteCode (quote : Char) : CodePoint → List Char
  | .char c => (commonEscape? quote c).getD (if isPrintable c then [c] else numericEscape c.toNat)
  | c => numericEscape c.toNat

/-- The text between quotes, with every unprintable code point escaped. -/
def quoted (s : Text) : String :=
  let cs := s.toList
  let quote := enclosingQuote (cs.contains '\'') (cs.contains '"')
  String.ofList (quote :: cs.flatMap (quoteCode quote) ++ [quote])

def quoteByte (quote : Char) (b : UInt8) : List Char :=
  let c := Char.ofNat b.toNat
  (commonEscape? quote c).getD
    (if 32 ≤ b && b < 127 then [c] else '\\' :: 'x' :: hexDigits 2 b.toNat)

def quotedBytes (bs : List UInt8) : String :=
  let quote := enclosingQuote (bs.contains 39) (bs.contains 34)
  String.ofList ('b' :: quote :: bs.flatMap (quoteByte quote) ++ [quote])

end TokenScopes.Text
