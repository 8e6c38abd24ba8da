import BenchSweep.Binary64.Read
import BenchSweep.Text.Blank
import BenchSweep.Text.Line

/-! # Finding the figure in a trial's output

    The figure is the first word after the first occurrence of the suite's
    marker in the last line that contains the marker.  A word that is no natural
    number below `2 ^ 64` may still be a decimal numeral: its binary64 value,
    which must be finite and not negative, is cut to an integer. -/

namespace BenchSweep.Throughput

/-- The largest figure. -/
def largest : Nat := 2 ^ 64 - 1

/-- The figure a decimal numeral stands for. -/
def ofNumeral? (word : List Char) : Option Nat :=
  match Binary64.read? word with
  | some (.finite negative m) =>
      if negative && m.mant != 0 then none else some (min m.floor largest)
  | _ => none

/-- The figure a word stands for. -/
def ofWord? (word : List Char) : Option Nat :=
  (Text.numeralBelow? (largest + 1) word).orElse fun _ => ofNumeral? word

/-- The figure in one line that contains the marker. -/
def ofLine? (marker line : List Char) : Option Nat := do
  ofWord? (← Text.firstWord? (← Text.after? marker line))

/-- **THE FIGURE** of captured output. -/
def find? (marker output : List Char) : Option Nat := do
  ofLine? marker (← (Text.lines output).reverse.find? (Text.contains marker))

/-- The figure of captured output as a 64-bit word. -/
def extract? (output marker : String) : Option UInt64 :=
  (find? marker.toList output.toList).map UInt64.ofNat

end BenchSweep.Throughput
