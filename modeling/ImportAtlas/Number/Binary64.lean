/-!
# Nearest binary fractions

A number written with a point or an exponent stands for the nearest fraction that has a numerator of
at most 53 bits over (or times) a power of two, as double precision arithmetic stores it.  Of two
nearest ones the even numerator wins.  Very small numbers share the smallest power of two, and too
large ones are infinite.
-/

namespace ImportAtlas

/-- The whole number nearest to a fraction, the even one of two. -/
def roundHalfEven (num den : Nat) : Nat :=
  let quotient := num / den
  let twice := 2 * (num % den)
  if twice < den then quotient
  else if den < twice then quotient + 1
  else quotient + quotient % 2

/-- A fraction; the denominators that arise here are powers of two. -/
structure Fraction where
  num : Int
  den : Nat
deriving DecidableEq

/-- The first whole number that does not fit 64 bits with a sign, `2 ^ 63`. -/
def longLimit : Int := 9223372036854775808

namespace Binary64

/-- The greatest `e` with `2 ^ e ≤ num / den`, for positive `num` and `den`. -/
def exponent (num den : Nat) : Int :=
  let e : Int := (Nat.log2 num : Int) - (Nat.log2 den : Int)
  if num <<< (-e).toNat < den <<< e.toNat then e - 1 else e

/-- The nearest fraction of double precision to `num / den`, or none when it is infinite. -/
def nearest? (num den : Nat) : Option Fraction :=
  if num = 0 then some ⟨0, 1⟩
  else
    let scale : Int := max (exponent num den - 52) (-1074)
    let digits := roundHalfEven (num <<< (-scale).toNat) (den <<< scale.toNat)
    if 1024 ≤ (Nat.log2 digits : Int) + scale then none
    else some ⟨(digits <<< scale.toNat : Nat), 1 <<< (-scale).toNat⟩

def decimalLength (n : Nat) : Nat :=
  if n < 10 then 1 else decimalLength (n / 10) + 1
termination_by n
decreasing_by omega

/-- The nearest fraction of double precision to `mantissa * 10 ^ exponent`, or none when it is
infinite.  Exponents far outside the range of double precision are settled without arithmetic. -/
def ofDecimal? (mantissa exponent : Int) : Option Fraction :=
  let size := mantissa.natAbs
  let top := exponent + decimalLength size
  if size = 0 || top < -400 then some ⟨0, 1⟩
  else if 400 < top then none
  else
    let scaled := nearest? (size * Nat.pow 10 exponent.toNat) (Nat.pow 10 (-exponent).toNat)
    scaled.map fun fraction =>
      if mantissa < 0 then ⟨-fraction.num, fraction.den⟩ else fraction

end Binary64

end ImportAtlas
