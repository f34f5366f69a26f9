import TokenScopes.Text.Basic
import TokenScopes.Text.DecimalDigit

namespace TokenScopes.Text

inductive Utf8Problem where
  | startByte
  | continuationByte
  | endOfData
  deriving DecidableEq

/-- A problem with `count` bytes from `position` on, the first of which is `byte`. -/
structure Utf8Fault where
  problem : Utf8Problem
  position : Nat
  count : Nat
  byte : UInt8
  deriving DecidableEq

/-- What a first byte announces: its share of the code point and the ranges of the bytes that
follow. The ranges rule out overlong forms, surrogates and everything beyond U+10FFFF. -/
def leadByte? (b : Nat) : Option (Nat × List (Nat × Nat)) :=
  let tail := (0x80, 0xBF)
  if b < 0x80 then some (b, [])
  else if b < 0xC2 then none
  else if b < 0xE0 then some (b - 0xC0, [tail])
  else if b = 0xE0 then some (0, [(0xA0, 0xBF), tail])
  else if b = 0xED then some (0xD, [(0x80, 0x9F), tail])
  else if b < 0xF0 then some (b - 0xE0, [tail, tail])
  else if b = 0xF0 then some (0, [(0x90, 0xBF), tail, tail])
  else if b < 0xF4 then some (b - 0xF0, [tail, tail, tail])
  else if b = 0xF4 then some (4, [(0x80, 0x8F), tail, tail])
  else none

/-- Takes the bytes that have to follow. A problem comes with the number of bytes it leaves
unread. -/
def takeTail (code : Nat) : List (Nat × Nat) → List UInt8 →
    Except (Utf8Problem × List UInt8) (Nat × List UInt8)
  | [], bytes => .ok (code, bytes)
  | _ :: _, [] => .error (.endOfData, [])
  | (low, high) :: ranges, b :: bytes =>
    if low ≤ b.toNat && b.toNat ≤ high then takeTail (code * 64 + b.toNat % 64) ranges bytes
    else .error (.continuationByte, b :: bytes)

/-- Reads one character after another; `fuel` is the number of bytes. -/
def decodeFrom (position : Nat) (acc : List Char) : Nat → List UInt8 → Except Utf8Fault (List Char)
  | 0, _ => .ok acc.reverse
  | _, [] => .ok acc.reverse
  | fuel + 1, b :: bytes =>
    match leadByte? b.toNat with
    | none => .error ⟨.startByte, position, 1, b⟩
    | some (share, ranges) =>
      match takeTail share ranges bytes with
      | .error (problem, rest) => .error ⟨problem, position, bytes.length + 1 - rest.length, b⟩
      | .ok (code, rest) =>
        decodeFrom (position + ranges.length + 1) (Char.ofNat code :: acc) fuel rest

/-- A text is refused at the first byte that no character can explain, and the fault says which
bytes were looked at. -/
def decodeUtf8 (bytes : List UInt8) : Except Utf8Fault (List Char) :=
  decodeFrom 0 [] bytes.length bytes

/-- `count` halves of surrogate pairs from `position` on, the first of which is `half`. There are no
bytes for them. -/
structure EncodeFault where
  half : Fin 0x800
  position : Nat
  count : Nat
  deriving DecidableEq

def plainFrom (position : Nat) : List CodePoint → Except EncodeFault (List Char)
  | [] => .ok []
  | .char c :: cs => (plainFrom (position + 1) cs).map (c :: ·)
  | .half h :: cs => .error ⟨h, position, (cs.takeWhile CodePoint.isHalf).length + 1⟩

/-- The string that a text without halves is. -/
def plain (s : Text) : Except EncodeFault String :=
  (plainFrom 0 s.toList).map String.ofList

def Utf8Problem.message : Utf8Problem → String
  | .startByte => "invalid start byte"
  | .continuationByte => "invalid continuation byte"
  | .endOfData => "unexpected end of data"

def Utf8Fault.message (f : Utf8Fault) : String :=
  let which :=
    if f.count = 1 then
      "byte 0x" ++ String.ofList (hexDigits 2 f.byte.toNat) ++ " in position " ++
        toString f.position
    else
      "bytes in position " ++ toString f.position ++ "-" ++ toString (f.position + f.count - 1)
  "'utf-8' codec can't decode " ++ which ++ ": " ++ f.problem.message

def halfEscape (half : Fin 0x800) : List Char :=
  '\\' :: 'u' :: hexDigits 4 (0xD800 + half)

def EncodeFault.message (f : EncodeFault) : String :=
  let which :=
    if f.count = 1 then
      "character '" ++ String.ofList (halfEscape f.half) ++ "' in position " ++ toString f.position
    else
      "characters in position " ++ toString f.position ++ "-" ++
        toString (f.position + f.count - 1)
  "'utf-8' codec can't encode " ++ which ++ ": surrogates not allowed"

end TokenScopes.Text
