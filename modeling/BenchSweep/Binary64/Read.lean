import BenchSweep.Binary64.Shortest
import BenchSweep.Text.Numeral

/-! # Reading binary64 numerals

    The numerals that a measured figure or a floating point setting may be
    written as: an optional sign, digits with an optional point and an optional
    decimal exponent, or one of the words for infinity and for the value that
    is no number.  At least one digit stands before or after the point. -/

namespace BenchSweep

/-- A binary64 value. -/
inductive Binary64 where
  | finite (negative : Bool) (magnitude : Magnitude)
  | infinity (negative : Bool)
  | nan
deriving DecidableEq, Repr

namespace Binary64

open Text

/-- Splits off the leading decimal digits. -/
def spanDigits (text : List Char) : List Char × List Char :=
  text.span fun c => decide ('0' ≤ c) && decide (c ≤ '9')

/-- The decimal exponent that ends a numeral: nothing at all, or a mark, an
    optional sign and digits. -/
def exponent? : List Char → Option Int
  | []     => some 0
  | c :: r =>
      if c = 'e' ∨ c = 'E' then
        match r with
        | '-' :: ds => (value? 10 ds).map fun n => -(n : Int)
        | ds        => (value? 10 (dropPlus ds)).map fun n => (n : Int)
      else none

/-- An unsigned numeral with digits. -/
def digitsValue? (negative : Bool) (text : List Char) : Option Binary64 := do
  let (whole, rest) := spanDigits text
  let (part, rest) :=
    match rest with
    | '.' :: r => spanDigits r
    | r        => ([], r)
  let digits ← value? 10 (whole ++ part)
  let exp ← exponent? rest
  match Magnitude.ofDecimal? digits (exp - part.length) with
  | some m => some (.finite negative m)
  | none   => some (.infinity negative)

/-- The words for values without digits, in any case. -/
def wordValue? (negative : Bool) (text : List Char) : Option Binary64 :=
  match String.ofList (text.map Char.toLower) with
  | "inf"      => some (.infinity negative)
  | "infinity" => some (.infinity negative)
  | "nan"      => some .nan
  | _          => none

/-- An unsigned numeral of any kind. -/
def unsigned? (negative : Bool) (text : List Char) : Option Binary64 :=
  (wordValue? negative text).orElse fun _ => digitsValue? negative text

/-- The value of a numeral: the binary64 value nearest to the number written,
    infinity where that number is too large. -/
def read? : List Char → Option Binary64
  | '-' :: r => unsigned? true r
  | '+' :: r => unsigned? false r
  | r        => unsigned? false r

/-- Neither infinite nor the value that is no number. -/
def isFinite : Binary64 → Bool
  | .finite .. => true
  | _          => false

/-- Positional text; integral values end in `.0`. -/
def text : Binary64 → String
  | .finite negative m =>
      let digits := (m.shortest .up).text
      (if negative then "-" else "") ++ digits ++ (if digits.contains '.' then "" else ".0")
  | .infinity negative => if negative then "-inf" else "inf"
  | .nan => "NaN"

end Binary64

end BenchSweep
