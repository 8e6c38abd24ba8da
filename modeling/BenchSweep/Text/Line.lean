/-! # Lines of captured output

    A line ends at a line feed; one carriage return directly before it belongs
    to the line end.  A last line without line feed keeps its carriage return,
    and a text that ends in a line feed has no further empty line. -/

namespace BenchSweep.Text

/-- A finished line, given backwards: one carriage return at its end goes. -/
def closeLine : List Char → List Char
  | '\r' :: r => r.reverse
  | r         => r.reverse

/-- Lines of a text after the part `back` (backwards) of the current line. -/
def linesAfter (back : List Char) : List Char → List (List Char)
  | []        => if back.isEmpty then [] else [back.reverse]
  | '\n' :: r => closeLine back :: linesAfter [] r
  | c :: r    => linesAfter (c :: back) r

/-- The lines of a text, without their line ends. -/
def lines (text : List Char) : List (List Char) :=
  linesAfter [] text

/-- What follows the first occurrence of `needle`, if there is one. -/
def after? (needle : List Char) : List Char → Option (List Char)
  | []     => if needle.isEmpty then some [] else none
  | c :: r =>
      if needle.isPrefixOf (c :: r) then some ((c :: r).drop needle.length)
      else after? needle r

/-- Whether `needle` occurs in a text. -/
def contains (needle text : List Char) : Bool :=
  (after? needle text).isSome

end BenchSweep.Text
