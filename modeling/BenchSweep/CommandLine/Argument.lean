import BenchSweep.Report.Record
import BenchSweep.Settings.Raw
import BenchSweep.Text.Numeral

/-! # Arguments of the command line

    An argument is a long switch, a cluster of short switches, the mark after
    which there are no more switches, or a word.  The value of a switch follows
    it in the same argument, or is the next argument, which must be a word. -/

namespace BenchSweep.CommandLine

/-- The four forms of an argument. -/
inductive Argument where
  | long (name : List Char) (value? : Option (List Char))
  | shorts (cluster : List Char)
  | endOfSwitches
  | word (text : List Char)
deriving DecidableEq, Repr

/-- A long switch, split at its first equals sign. -/
def Argument.ofLong (text : List Char) : Argument :=
  match text.dropWhile (· ≠ '=') with
  | []         => .long text none
  | _ :: value => .long (text.takeWhile (· ≠ '=')) (some value)

/-- The form of an argument.  A single hyphen is a word. -/
def Argument.ofText : List Char → Argument
  | ['-', '-']       => .endOfSwitches
  | '-' :: '-' :: text => .ofLong text
  | '-' :: c :: cs   => .shorts (c :: cs)
  | text             => .word text

-- ── Values ────────────────────────────────────────────────────────────────

/-- A 32-bit word: a decimal numeral with an optional sign, a minus only in front
    of zero. -/
def word32? : List Char → Option UInt32
  | '-' :: ds => ((Text.value? 10 ds).filter (· = 0)).map UInt32.ofNat
  | text      => (Text.numeralBelow? (2 ^ 32) text).map UInt32.ofNat

/-- A 64-bit word: a decimal numeral with an optional plus sign. -/
def word64? (text : List Char) : Option UInt64 :=
  (Text.numeralBelow? (2 ^ 64) text).map UInt64.ofNat

/-- The parts of a text between commas. -/
def betweenCommas : List Char → List (List Char)
  | []     => [[]]
  | c :: r =>
      if c = ',' then [] :: betweenCommas r
      else
        match betweenCommas r with
        | []           => [[c]]
        | part :: rest => (c :: part) :: rest

/-- A list of 32-bit words with commas in between. -/
def words32? (text : List Char) : Option (List UInt32) :=
  (betweenCommas text).mapM word32?

/-- A path is any text but the empty one. -/
def path? (text : List Char) : Option String :=
  if text.isEmpty then none else some (String.ofList text)

/-- The form of records. -/
def formatNamed? (text : List Char) : Option Format :=
  match String.ofList text with
  | "text" => some .text
  | "json" => some .json
  | _      => none

end BenchSweep.CommandLine
