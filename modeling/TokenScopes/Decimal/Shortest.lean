import TokenScopes.Decimal.Binary64

namespace TokenScopes.Decimal

structure Scaled where
  digits : Nat
  exponent : Int
  deriving DecidableEq

/-- A positive number between the ends of its rounding interval, over one denominator. -/
structure Target where
  low : Nat
  value : Nat
  high : Nat
  den : Nat
  /-- The ends themselves round to the number. -/
  closed : Bool

/-- The interval of a positive finite number. The gap below a power of two is half the gap above,
so everything is counted in quarters of the unit. -/
def Target.of (x : Binary64) : Target :=
  let narrow := x.fractionField = 0 && 1 < x.exponentField
  let m := 4 * x.significand
  let low := if narrow then m - 1 else m - 2
  let q := x.exponent - 2
  let up := 2 ^ q.toNat
  ⟨low * up, m * up, (m + 2) * up, 2 ^ (-q).toNat, x.significand % 2 == 0⟩

/-- Whether `digits * 10 ^ exponent` rounds to the target. -/
def Target.admits (t : Target) (c : Scaled) : Bool :=
  let left := c.digits * 10 ^ c.exponent.toNat * t.den
  let unit := 10 ^ (-c.exponent).toNat
  if t.closed then t.low * unit ≤ left && left ≤ t.high * unit
  else t.low * unit < left && left < t.high * unit

/-- The quotient of the target by `10 ^ exponent`, rounded down. -/
def Target.floorAt (t : Target) (exponent : Int) : Nat :=
  t.value * 10 ^ (-exponent).toNat / (t.den * 10 ^ exponent.toNat)

/-- Whether the grid point above is nearer to the target than the one below. -/
def Target.nearerAbove (t : Target) (below : Nat) (exponent : Int) : Bool :=
  let twice := 2 * t.value * 10 ^ (-exponent).toNat
  let middle := (2 * below + 1) * 10 ^ exponent.toNat * t.den
  middle < twice || (middle == twice && below % 2 == 1)

/-- The grid point nearest to the target of those that round to it. -/
def Target.onGrid (t : Target) (exponent : Int) : Option Scaled :=
  let below := t.floorAt exponent
  let lower : Scaled := ⟨below, exponent⟩
  let upper : Scaled := ⟨below + 1, exponent⟩
  match t.admits lower, t.admits upper with
  | true, true => some (if t.nearerAbove below exponent then upper else lower)
  | true, false => some lower
  | false, true => some upper
  | false, false => none

/-- The least `k` with `target < 10 ^ k`, searched upwards from a lower bound. -/
def Target.magnitude (t : Target) : Nat → Int → Int
  | 0, k => k
  | fuel + 1, k =>
    if t.value * 10 ^ (-k).toNat < t.den * 10 ^ k.toNat then k else magnitude t fuel (k + 1)

/-- Tries grids of 1, 2, … 17 digits in turn. On each, the two neighbours of the number are tested
against the interval of reals that round to it. -/
def Target.search (t : Target) (k : Int) : Nat → Nat → Option Scaled
  | 0, _ => none
  | fuel + 1, n => (t.onGrid (k - n)).or (t.search k fuel (n + 1))

/-- The decimal with its trailing zeros moved into the exponent. -/
def stripZeros : Nat → Scaled → Scaled
  | 0, c => c
  | fuel + 1, c =>
    if c.digits ≠ 0 ∧ c.digits % 10 = 0 then stripZeros fuel ⟨c.digits / 10, c.exponent + 1⟩ else c

/-- The shortest decimal that reads back to a finite number other than zero; of two as short, the
nearer. The exact value is the fallback, should seventeen digits not do. -/
def shortest (x : Binary64) : Scaled :=
  let t := Target.of x
  let bits : Int := (x.significand.log2 : Int) + x.exponent
  let k := t.magnitude 8 (bits * 30103 / 100000 - 1)
  let exact : Scaled :=
    if 0 ≤ x.exponent then ⟨x.significand * 2 ^ x.exponent.toNat, 0⟩
    else ⟨x.significand * 5 ^ (-x.exponent).toNat, x.exponent⟩
  stripZeros 20 ((t.search k 17 1).getD exact)

end TokenScopes.Decimal
