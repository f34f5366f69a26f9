import TokenScopes.Value.Display

namespace TokenScopes.Value

/-- Of neighbours with one key, the last. -/
def lastOfEach : List (Text × Value) → List (Text × Value)
  | [] => []
  | [e] => [e]
  | a :: b :: rest => if a.1 = b.1 then lastOfEach (b :: rest) else a :: lastOfEach (b :: rest)

/-- Fields in ascending order of their keys, the last of each key. The sort is stable, so the last
is the last of the given order. -/
def sortFields (fields : List (Text × Value)) : List (Text × Value) :=
  lastOfEach (fields.mergeSort fun a b => decide (a.1 ≤ b.1))

mutual

/-- The canonical form: every mapping has text keys in ascending order, and every sequence is a
list. -/
def canonical : Value → Value
  | .map entries => ofFields (sortFields (canonicalFields entries))
  | .list items => .list (canonicalItems items)
  | .tuple items => .list (canonicalItems items)
  | v => v

def canonicalItems : List Value → List Value
  | [] => []
  | v :: vs => canonical v :: canonicalItems vs

def canonicalFields : List (Value × Value) → List (Text × Value)
  | [] => []
  | (k, v) :: rest => (display k, canonical v) :: canonicalFields rest

end

end TokenScopes.Value
