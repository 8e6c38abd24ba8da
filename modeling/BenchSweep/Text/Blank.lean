/-! # White space and words

    Which characters count as white space when a figure is cut out of a line
    or a marker is tested for being blank.  The set is the Unicode property
    `White_Space`: 25 code points in ten ranges, unchanged since Unicode 6.3.

    `firstWord?` reads the first maximal run of non-blank characters. -/

namespace BenchSweep.Text

/-- Closed ranges of white-space code points, ascending and apart. -/
def blankRanges : List (Nat × Nat) :=
  [(0x09, 0x0D), (0x20, 0x20), (0x85, 0x85), (0xA0, 0xA0), (0x1680, 0x1680),
   (0x2000, 0x200A), (0x2028, 0x2029), (0x202F, 0x202F), (0x205F, 0x205F),
   (0x3000, 0x3000)]

/-- White space in the sense of Unicode's `White_Space` property. -/
def isBlank (c : Char) : Bool :=
  blankRanges.any fun r => decide (r.1 ≤ c.toNat) && decide (c.toNat ≤ r.2)

/-- A text without a visible character. -/
def allBlank (text : List Char) : Bool :=
  text.all isBlank

/-- The first word of a text: leading white space is skipped and the word
    ends before the next white space.  Blank texts have none. -/
def firstWord? (text : List Char) : Option (List Char) :=
  match text.dropWhile isBlank with
  | []     => none
  | c :: r => some ((c :: r).takeWhile fun d => !isBlank d)

end BenchSweep.Text
