namespace TokenScopes

/-- Powers of natural numbers are those of the core library, whatever else is imported. -/
@[default_instance 20000]
instance (priority := 2000) corePow : Pow Nat Nat := instPowNat

/-- A number of 64 bits: one sign bit, eleven exponent bits, fifty-two fraction bits. -/
structure Binary64 where
  bits : Nat
  bits_lt : bits < 2 ^ 64
  deriving DecidableEq

namespace Binary64

def ofBits (n : Nat) : Binary64 :=
  ⟨n % 2 ^ 64, Nat.mod_lt _ (by decide)⟩

instance : Inhabited Binary64 := ⟨ofBits 0⟩

def isNegative (x : Binary64) : Bool :=
  2 ^ 63 ≤ x.bits

def exponentField (x : Binary64) : Nat :=
  x.bits / 2 ^ 52 % 2 ^ 11

def fractionField (x : Binary64) : Nat :=
  x.bits % 2 ^ 52

def isNaN (x : Binary64) : Bool :=
  x.exponentField == 2047 && x.fractionField != 0

def isInfinite (x : Binary64) : Bool :=
  x.exponentField == 2047 && x.fractionField == 0

def isFinite (x : Binary64) : Bool :=
  x.exponentField != 2047

def zero : Binary64 := ofBits 0

def infinity : Binary64 := ofBits (2047 * 2 ^ 52)

def nan : Binary64 := ofBits (2047 * 2 ^ 52 + 2 ^ 51)

def negate (x : Binary64) : Binary64 :=
  if x.isNegative then ofBits (x.bits - 2 ^ 63) else ofBits (x.bits + 2 ^ 63)

/-- The magnitude of a finite number is `significand * 2 ^ exponent`. -/
def significand (x : Binary64) : Nat :=
  if x.exponentField = 0 then x.fractionField else x.fractionField + 2 ^ 52

def exponent (x : Binary64) : Int :=
  if x.exponentField = 0 then -1074 else x.exponentField - 1075

/-- A numerator and a denominator of the magnitude of a finite number. -/
def ratio (x : Binary64) : Nat × Nat :=
  if 0 ≤ x.exponent then (x.significand * 2 ^ x.exponent.toNat, 1)
  else (x.significand, 2 ^ (-x.exponent).toNat)

/-- The integer that a finite number equals, if it is one. -/
def toInt? (x : Binary64) : Option Int :=
  let (num, den) := x.ratio
  if !x.isFinite then none
  else if num % den = 0 then some (if x.isNegative then -(num / den : Nat) else (num / den : Nat))
  else none

/-- The integer nearest to zero of the two around a finite number. -/
def truncate (x : Binary64) : Int :=
  let (num, den) := x.ratio
  if x.isNegative then -(num / den : Nat) else (num / den : Nat)

/-- The quotient rounded to the nearest natural number, a half to the even one. -/
def roundQuotient (num den : Nat) : Nat :=
  let q := num / den
  let r := num % den
  if den < 2 * r || (2 * r == den && q % 2 == 1) then q + 1 else q

/-- The scale at which the quotient has a significand of fifty-three bits, or the least scale. -/
def scaleOf (num den : Nat) : Int :=
  let guess : Int := max (-1074) ((num.log2 : Int) - den.log2 - 53)
  let quotient := if 0 ≤ guess then num / (den * 2 ^ guess.toNat)
    else num * 2 ^ (-guess).toNat / den
  if 2 ^ 53 ≤ quotient then guess + 1 else guess

/-- The number nearest to a positive quotient, a tie to the even significand; infinity above all.
The hidden bit of the significand, and one that rounds up to `2 ^ 53`, carry into the exponent
field by themselves. -/
def ofQuotient (num den : Nat) : Binary64 :=
  let scale := scaleOf num den
  let m := if 0 ≤ scale then roundQuotient num (den * 2 ^ scale.toNat)
    else roundQuotient (num * 2 ^ (-scale).toNat) den
  let bits := (scale + 1074).toNat * 2 ^ 52 + m
  if 2047 * 2 ^ 52 ≤ bits then infinity else ofBits bits

/-- The number nearest to `m * 10 ^ e`. Exponents far out of range are settled before any power
is computed: below `2 ^ (log2 m + 1) * 10 ^ e` there is nothing but zero. -/
def ofDecimal (m : Nat) (e : Int) : Binary64 :=
  if m = 0 then zero
  else if 400 < e then infinity
  else if e < -(400 + m.log2 : Int) then zero
  else if 0 ≤ e then ofQuotient (m * 10 ^ e.toNat) 1
  else ofQuotient m (10 ^ (-e).toNat)

def ofInt (i : Int) : Binary64 :=
  let x := if i = 0 then zero else ofQuotient i.natAbs 1
  if i < 0 then x.negate else x

def equalsInt (x : Binary64) (i : Int) : Bool :=
  x.toInt? == some i

/-- Numeric equality: NaN differs from itself, and the two zeros are equal. -/
def equal (x y : Binary64) : Bool :=
  !x.isNaN && !y.isNaN && (x.bits == y.bits || (x.bits % 2 ^ 63 == 0 && y.bits % 2 ^ 63 == 0))

end Binary64

end TokenScopes
