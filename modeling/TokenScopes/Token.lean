import TokenScopes.Value.Integer

namespace TokenScopes

/-- The piece of a line from `start` up to `stop`, counted in code points, with its scopes. -/
structure Token where
  start : Nat
  stop : Nat
  scopes : List Text
  start_le_stop : start ≤ stop
  deriving DecidableEq

/-- Why values make no token. Offsets out of order are kept as they were given. -/
inductive TokenFault where
  | negativeStart (start stop : Value)
  | stopBeforeStart (start stop : Value)
  | notInteger (fault : Value.IntegerFault)
  | scopesNotIterable (kind : String)

def TokenFault.message : TokenFault → String
  | .negativeStart _ _ => "token start offset is negative"
  | .stopBeforeStart _ _ => "token end offset precedes start"
  | .notInteger f => f.message
  | .scopesNotIterable kind => "'" ++ kind ++ "' object is not iterable"

namespace Token

/-- The part of a line that a token covers; offsets beyond the end count as the end. -/
def textOn (t : Token) (line : Text) : Text :=
  Text.ofList ((line.toList.take t.stop).drop t.start)

/-- A token from offsets and scopes that are integers and texts already. -/
def ofOffsets (start stop : Int) (scopes : List Text) : Except TokenFault Token :=
  if start < 0 then .error (.negativeStart (.int start) (.int stop))
  else if h : start ≤ stop then .ok ⟨start.toNat, stop.toNat, scopes, Int.toNat_le_toNat h⟩
  else .error (.stopBeforeStart (.int start) (.int stop))

/-- A token from values of any kind. Offsets are settled before the scopes are looked at. -/
def ofValues (start stop scopes : Value) : Except TokenFault Token := do
  let first ← start.toInteger.mapError .notInteger
  let last ← stop.toInteger.mapError .notInteger
  if first < 0 then throw (.negativeStart start stop)
  if last < first then throw (.stopBeforeStart start stop)
  match scopes.elements? with
  | none => throw (.scopesNotIterable scopes.operandName)
  | some items => ofOffsets first last (items.map Value.display)

def toValue (t : Token) : Value :=
  .ofFields [("startIndex", .int t.start), ("endIndex", .int t.stop),
    ("scopes", .ofTexts t.scopes)]

end Token

end TokenScopes
