import BenchSweep.Power

/-! # Digit strings

    Numbers as written: the digits of a natural number in base ten, and the
    value of a digit string in any base up to sixteen. -/

namespace BenchSweep.Text

/-- The decimal digits of a number, most significant first. -/
def decimal (n : Nat) : List Char :=
  Nat.toDigits 10 n

/-- The value of a digit below `base`; letters of either case continue after
    nine. -/
def digit? (base : Nat) (c : Char) : Option Nat :=
  let value :=
    if '0' ≤ c ∧ c ≤ '9' then some (c.toNat - 48)
    else if 'a' ≤ c ∧ c ≤ 'z' then some (c.toNat - 87)
    else if 'A' ≤ c ∧ c ≤ 'Z' then some (c.toNat - 55)
    else none
  value.filter (· < base)

/-- The value of a digit string read after digits of value `acc`. -/
def valueAfter? (base acc : Nat) : List Char → Option Nat
  | []     => some acc
  | c :: r => do valueAfter? base (acc * base + (← digit? base c)) r

/-- The value of a non-empty string of digits below `base`. -/
def value? (base : Nat) : List Char → Option Nat
  | [] => none
  | ds => valueAfter? base 0 ds

/-- A plus sign in front of a number may be left out. -/
def dropPlus : List Char → List Char
  | '+' :: r => r
  | r        => r

/-- The number a decimal numeral stands for, if it is below `bound`. -/
def numeralBelow? (bound : Nat) (text : List Char) : Option Nat :=
  (value? 10 (dropPlus text)).filter (· < bound)

/-- Leading blanks fill a text up to `width` characters. -/
def padLeft (width : Nat) (text : String) : String :=
  String.ofList (List.replicate (width - text.length) ' ') ++ text

/-- Trailing blanks fill a text up to `width` characters. -/
def padRight (width : Nat) (text : String) : String :=
  text ++ String.ofList (List.replicate (width - text.length) ' ')

end BenchSweep.Text
