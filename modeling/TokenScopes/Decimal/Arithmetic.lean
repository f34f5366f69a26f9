import TokenScopes.Decimal.Binary64

namespace TokenScopes.Binary64

/-- A finite number as a signed numerator over a denominator. -/
def signedRatio (x : Binary64) : Int × Nat :=
  let (num, den) := x.ratio
  (if x.isNegative then -(num : Int) else num, den)

/-- The number nearest to a signed quotient. A quotient of zero has the given sign. -/
def ofSignedQuotient (num : Int) (den : Nat) (negativeZero : Bool) : Binary64 :=
  if num = 0 then (if negativeZero then zero.negate else zero)
  else
    let x := ofQuotient num.natAbs den
    if num < 0 then x.negate else x

def add (x y : Binary64) : Binary64 :=
  if x.isNaN || y.isNaN then nan
  else if x.isInfinite then (if y.isInfinite && x.bits != y.bits then nan else x)
  else if y.isInfinite then y
  else
    let (a, b) := x.signedRatio
    let (c, d) := y.signedRatio
    ofSignedQuotient (a * d + c * b) (b * d) (x.isNegative && y.isNegative)

def mul (x y : Binary64) : Binary64 :=
  let negative := x.isNegative != y.isNegative
  if x.isNaN || y.isNaN then nan
  else if x.isInfinite || y.isInfinite then
    if (x.isFinite && x.significand == 0) || (y.isFinite && y.significand == 0) then nan
    else if negative then infinity.negate
    else infinity
  else
    let (a, b) := x.signedRatio
    let (c, d) := y.signedRatio
    ofSignedQuotient (a * c) (b * d) negative

end TokenScopes.Binary64
