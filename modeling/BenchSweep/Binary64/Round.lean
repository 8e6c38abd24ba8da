import BenchSweep.Power

/-! # Binary64 magnitudes

    Non-negative finite binary64 values as exact numbers `mant * 2 ^ exp`, and
    the one operation that everything else needs: the value nearest to a
    quotient of natural numbers, ties to the even neighbour.  Products and
    quotients of binary64 values are formed exactly and rounded once. -/

namespace BenchSweep

/-- A quotient rounded to the nearest integer, halves to the even one. -/
def roundHalfEven (num den : Nat) : Nat :=
  let q := num / den
  let r := num % den
  if 2 * r < den then q
  else if den < 2 * r then q + 1
  else if q % 2 = 0 then q
  else q + 1

/-- A non-negative finite binary64 value `mant * 2 ^ exp`. -/
structure Magnitude where
  mant : Nat
  exp  : Int
deriving DecidableEq, Repr

namespace Magnitude

/-- Zero. -/
def zero : Magnitude := ⟨0, 0⟩

/-- The value as a quotient of natural numbers. -/
def ratio (x : Magnitude) : Nat × Nat :=
  (x.mant * 2 ^ x.exp.toNat, 2 ^ (-x.exp).toNat)

/-- The exponent of the leading bit of `num / den`: the largest `k` with
    `2 ^ k ≤ num / den`. -/
def leadingBit (num den : Nat) : Int :=
  let k : Int := (num.log2 : Int) - (den.log2 : Int)
  if den * 2 ^ k.toNat ≤ num * 2 ^ (-k).toNat then k else k - 1

/-- **NEAREST VALUE** of a quotient, ties to even; nothing when the rounded
    value would need an exponent above the format's largest. -/
def ofRatio? (num den : Nat) : Option Magnitude :=
  if num = 0 then some zero
  else
    let exp := max (leadingBit num den - 52) (-1074)
    let mant := roundHalfEven (num * 2 ^ (-exp).toNat) (den * 2 ^ exp.toNat)
    let (mant, exp) := if mant = 2 ^ 53 then (2 ^ 52, exp + 1) else (mant, exp)
    if 971 < exp then none else some ⟨mant, exp⟩

/-- The nearest value of a natural number. -/
def ofNat? (n : Nat) : Option Magnitude :=
  ofRatio? n 1

/-- The product of two values, rounded; nothing on overflow. -/
def times? (x y : Magnitude) : Option Magnitude :=
  ofRatio? (x.ratio.1 * y.ratio.1) (x.ratio.2 * y.ratio.2)

/-- The quotient of two values, rounded; nothing on overflow. -/
def over? (x y : Magnitude) : Option Magnitude :=
  ofRatio? (x.ratio.1 * y.ratio.2) (x.ratio.2 * y.ratio.1)

/-- The nearest value of `digits * 10 ^ exp`; nothing on overflow.  Values that
    are far outside of the format's range are settled without computing the
    power. -/
def ofDecimal? (digits : Nat) (exp : Int) : Option Magnitude :=
  if digits = 0 then some zero
  else
    let top : Int := (Nat.toDigits 10 digits).length + exp
    if 310 < top then none
    else if top < -330 then some zero
    else ofRatio? (digits * 10 ^ exp.toNat) (10 ^ (-exp).toNat)

/-- The integer part. -/
def floor (x : Magnitude) : Nat :=
  x.ratio.1 / x.ratio.2

/-- The text with `places` digits after the point, the exact value rounded
    with halves to even. -/
def fixed (places : Nat) (x : Magnitude) : String :=
  let scaled := roundHalfEven (x.ratio.1 * 10 ^ places) x.ratio.2
  let ds := Nat.toDigits 10 scaled
  let ds := List.replicate (places + 1 - ds.length) '0' ++ ds
  let whole := ds.take (ds.length - places)
  if places = 0 then String.ofList whole
  else String.ofList (whole ++ '.' :: ds.drop (ds.length - places))

end Magnitude

end BenchSweep
