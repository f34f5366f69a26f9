import TokenScopes.Decimal.Shortest

namespace TokenScopes.Decimal

/-- The decisions that a number format takes beyond the choice of digits. -/
structure Layout where
  /-- Positional while the first digit stands at most this many places above the units. -/
  greatest : Int
  /-- Positional while the first digit stands at least here. -/
  least : Int
  /-- Digits of the exponent at least. -/
  exponentWidth : Nat
  nan : String
  infinity : String

/-- Positional from `0.0001` up to sixteen digits before the point, with `.0` on whole numbers;
otherwise an exponent with a sign and two digits at least. -/
def plainLayout : Layout := ⟨15, -4, 2, "nan", "inf"⟩

def padLeft (width : Nat) (ds : List Char) : List Char :=
  List.replicate (width - ds.length) '0' ++ ds

/-- The digits with a point after the first `n` of them. -/
def positional (ds : List Char) (n : Int) : List Char :=
  if n ≤ 0 then ['0', '.'] ++ List.replicate (-n).toNat '0' ++ ds
  else if (ds.length : Int) ≤ n then ds ++ List.replicate (n.toNat - ds.length) '0' ++ ['.', '0']
  else ds.take n.toNat ++ '.' :: ds.drop n.toNat

def scientific (width : Nat) (ds : List Char) (e : Int) : List Char :=
  let mantissa := match ds with
    | [] => []
    | [d] => [d]
    | d :: rest => d :: '.' :: rest
  let sign := if e < 0 then '-' else '+'
  mantissa ++ 'e' :: sign :: padLeft width (Nat.toDigits 10 e.natAbs)

def Layout.write (l : Layout) (x : Binary64) : String :=
  let sign := if x.isNegative then "-" else ""
  if x.isNaN then l.nan
  else if x.isInfinite then sign ++ l.infinity
  else if x.significand = 0 then sign ++ "0.0"
  else
    let c := shortest x
    let ds := Nat.toDigits 10 c.digits
    let e : Int := ds.length + c.exponent - 1
    let body := if l.least ≤ e ∧ e ≤ l.greatest then positional ds (e + 1)
      else scientific l.exponentWidth ds e
    sign ++ String.ofList body

end TokenScopes.Decimal
