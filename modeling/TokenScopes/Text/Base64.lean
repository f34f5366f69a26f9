namespace TokenScopes.Text

/-- The six bits of a character of the alphabet. -/
def base64Value? (c : Char) : Option Nat :=
  if 'A' ≤ c && c ≤ 'Z' then some (c.toNat - 65)
  else if 'a' ≤ c && c ≤ 'z' then some (c.toNat - 71)
  else if c.isDigit then some (c.toNat + 4)
  else if c = '+' then some 62
  else if c = '/' then some 63
  else none

/-- Decodes groups of four characters. `place` counts the characters of the group so far, `left`
holds the bits that do not fill a byte yet, and `pads` counts the padding since the last
character; a group that the padding fills up ends the text. -/
def decodeBase64From (acc : List UInt8) (place left pads : Nat) : List Char → Option (List UInt8)
  | [] => if place = 0 then some acc.reverse else none
  | c :: cs =>
    if c = '=' then
      if place < 2 then decodeBase64From acc place left pads cs
      else if 4 ≤ place + pads + 1 then some acc.reverse
      else decodeBase64From acc place left (pads + 1) cs
    else
      match base64Value? c with
      | none => decodeBase64From acc place left pads cs
      | some v =>
        match place with
        | 0 => decodeBase64From acc 1 v 0 cs
        | 1 => decodeBase64From ((left * 4 + v / 16).toUInt8 :: acc) 2 (v % 16) 0 cs
        | 2 => decodeBase64From ((left * 16 + v / 4).toUInt8 :: acc) 3 (v % 4) 0 cs
        | _ => decodeBase64From ((left * 64 + v).toUInt8 :: acc) 0 0 0 cs

/-- The bytes of a text in base 64, unless its last group is not complete. -/
def decodeBase64 (cs : List Char) : Option (List UInt8) :=
  decodeBase64From [] 0 0 0 cs

end TokenScopes.Text
