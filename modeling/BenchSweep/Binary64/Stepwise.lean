import BenchSweep.Binary64.Shortest
import BenchSweep.Text.Numeral

/-! # Decimals read in steps

    A quick way from a written number to a binary64 value.  The leading digits
    are kept as far as a 64-bit word holds them; the word is rounded, and then
    multiplied with its power of ten, or divided by it, and rounded once more.

    The result is the nearest value wherever the word and the power are binary64
    values themselves.  Elsewhere the two roundings may add up, and the result
    may be a neighbour of the nearest value. -/

namespace BenchSweep

/-- The value nearest to a power of ten. -/
def Magnitude.tenTo? (n : Nat) : Option Magnitude :=
  ofNat? (10 ^ n)

namespace Decimal

/-- Digits appended to a word as long as it stays below `2 ^ 64`, and the digits
    from the first one on that does not fit. -/
def fill (word : Nat) : List Char → Nat × List Char
  | []     => (word, [])
  | c :: r =>
      match Text.valueAfter? 10 word [c] with
      | some longer => if longer < 2 ^ 64 then fill longer r else (word, c :: r)
      | none        => (word, c :: r)

/-- The decimal with these digits before the point, these behind it and this
    exponent.  Of the digits that do not fit, those before the point are taken
    for zeros, and those behind it are left out. -/
def ofParts (whole part : List Char) (exp : Int) : Decimal :=
  let (word, zeros) := fill 0 whole
  let (word, unused) := fill word part
  ⟨word, exp + (zeros.length : Int) - ((part.length - unused.length : Nat) : Int)⟩

/-- The powers of ten whose product is `10 ^ n`, none of them above `10 ^ 308`.
    Three of the largest bring every word to zero, so there are no more. -/
def divisors (n : Nat) : List Nat :=
  List.replicate (min (n / 308) 3) 308 ++ [n % 308]

/-- **THE VALUE IN STEPS**; nothing on overflow. -/
def stepwise? (d : Decimal) : Option Magnitude := do
  let word ← Magnitude.ofNat? d.digits
  if d.digits = 0 then return .zero
  else if 308 < d.exp then none
  else if 0 ≤ d.exp then word.times? (← Magnitude.tenTo? d.exp.toNat)
  else (divisors (-d.exp).toNat).foldlM (fun x n => do x.over? (← Magnitude.tenTo? n)) word

end Decimal

end BenchSweep
