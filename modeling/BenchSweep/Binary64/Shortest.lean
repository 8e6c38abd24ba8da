import BenchSweep.Binary64.Round

/-! # Shortest decimal text of a binary64 value

    A value is written with the fewest digits that still round to it; of two
    such decimals the nearer one is taken, and a rule decides an exact tie.
    The text is positional at every size and never has an exponent.

    The search tries grids of one to seventeen digits and tests the two
    neighbours of the value on each grid against the interval of numbers that
    round to the value, in exact integer arithmetic. -/

namespace BenchSweep

/-- A decimal number `digits * 10 ^ exp`. -/
structure Decimal where
  digits : Nat
  exp    : Int
deriving DecidableEq, Repr

/-- Which of two decimals next to each other is taken for the value halfway
    between them: the larger one, or the one with an even last digit. -/
inductive Tie where
  | up
  | even
deriving DecidableEq, Repr

/-- Whether a tie goes to the smaller decimal, whose digits are given. -/
def Tie.goesBelow (tie : Tie) (digits : Nat) : Bool :=
  match tie with
  | .up   => false
  | .even => digits % 2 == 0

namespace Magnitude

/-- Compares `a * 10 ^ i` with `n * 2 ^ j` exactly. -/
def compareScaled (a : Nat) (i : Int) (n : Nat) (j : Int) : Ordering :=
  compare (a * 10 ^ i.toNat * 2 ^ (-j).toNat) (n * 2 ^ j.toNat * 10 ^ (-i).toNat)

/-- A decimal reads back as `x` when it lies between the halfway points to the
    neighbours of `x`, these included exactly if the significand is even.  The
    gap below a power of two is half as wide. -/
def readsBack (x : Magnitude) (d : Decimal) : Bool :=
  let narrow := decide (x.mant = 2 ^ 52) && decide (-1074 < x.exp)
  let lo := if narrow then 4 * x.mant - 1 else 4 * x.mant - 2
  let hi := 4 * x.mant + 2
  let closed := x.mant % 2 == 0
  let fromLo := compareScaled d.digits d.exp lo (x.exp - 2)
  let fromHi := compareScaled d.digits d.exp hi (x.exp - 2)
  (fromLo == .gt || (closed && fromLo == .eq)) && (fromHi == .lt || (closed && fromHi == .eq))

/-- The least `k` with `x < 10 ^ k`, for `x` other than zero. -/
def decimalPoint (x : Magnitude) : Int :=
  let (num, den) := x.ratio
  if den ≤ num then (Nat.toDigits 10 (num / den)).length
  else 1 - (Nat.toDigits 10 ((den + num - 1) / num - 1)).length

/-- The best decimal with at most `n` digits that reads back, if there is one. -/
def withDigits? (tie : Tie) (x : Magnitude) (point : Int) (n : Nat) : Option Decimal :=
  let exp := point - n
  let (num, den) := x.ratio
  let num := num * 10 ^ (-exp).toNat
  let den := den * 10 ^ exp.toNat
  let below : Decimal := ⟨num / den, exp⟩
  let above : Decimal := ⟨num / den + 1, exp⟩
  match x.readsBack below, x.readsBack above with
  | true, true   =>
      match compare (2 * num) ((2 * below.digits + 1) * den) with
      | .lt => some below
      | .eq => some (if tie.goesBelow below.digits then below else above)
      | .gt => some above
  | true, false  => some below
  | false, true  => some above
  | false, false => none

/-- The shortest decimal that reads back as `x`. -/
def shortest (tie : Tie) (x : Magnitude) : Decimal :=
  if x.mant = 0 then ⟨0, 0⟩
  else
    let point := x.decimalPoint
    match (List.range 17).findSome? fun n => withDigits? tie x point (n + 1) with
    | some d => d
    | none   => ⟨x.ratio.1 * 5 ^ (-x.exp).toNat, min x.exp 0⟩

end Magnitude

/-- Positional text of a decimal, without a point if it is an integer. -/
def Decimal.text (d : Decimal) : String :=
  if 0 ≤ d.exp then String.ofList (Nat.toDigits 10 (d.digits * 10 ^ d.exp.toNat))
  else
    let places := (-d.exp).toNat
    let ds := Nat.toDigits 10 d.digits
    let ds := List.replicate (places + 1 - ds.length) '0' ++ ds
    let whole := ds.take (ds.length - places)
    let part := (ds.drop (ds.length - places)).reverse.dropWhile (· = '0') |>.reverse
    String.ofList (if part.isEmpty then whole else whole ++ '.' :: part)

end BenchSweep
