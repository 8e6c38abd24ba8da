import BenchSweep.Binary64.Read

/-! # Compact text of a binary64 value

    The shortest decimal of a value, written by its place: numbers whose leading
    digit stands at most sixteen places before the point or at most four zeros
    behind it are positional, all others have an exponent with its sign.  A tie
    between two decimals goes to the even digit.  Integral numbers in positional
    form end in `.0`. -/

namespace BenchSweep

namespace Decimal

/-- The digits of a decimal without zeros at their end, and the exponent that
    then belongs to them. -/
def trimmed (d : Decimal) : List Char × Int :=
  let ds := Nat.toDigits 10 d.digits
  let kept := (ds.reverse.dropWhile (· = '0')).reverse
  (kept, d.exp + (ds.length - kept.length : Nat))

/-- Digits with an exponent behind them; a point follows the first one unless it
    stands alone. -/
def exponential (digits : List Char) (place : Int) : String :=
  let front :=
    match digits with
    | [d]     => [d]
    | d :: ds => d :: '.' :: ds
    | []      => []
  String.ofList front ++ (if 0 < place then "e+" else "e") ++ toString (place - 1)

/-- The compact text of a decimal. -/
def compact (d : Decimal) : String :=
  if d.digits = 0 then "0.0"
  else
    let (digits, exp) := d.trimmed
    let place : Int := digits.length + exp
    if 0 ≤ exp ∧ place ≤ 16 then
      String.ofList (digits ++ List.replicate exp.toNat '0') ++ ".0"
    else if 0 < place ∧ place ≤ 16 then
      String.ofList (digits.take place.toNat ++ '.' :: digits.drop place.toNat)
    else if -5 < place ∧ place ≤ 0 then
      String.ofList ('0' :: '.' :: (List.replicate (-place).toNat '0' ++ digits))
    else exponential digits place

end Decimal

/-- The compact text of a value. -/
def Binary64.compact : Binary64 → String
  | .finite negative m => (if negative then "-" else "") ++ (m.shortest .even).compact
  | v                  => v.text

end BenchSweep
