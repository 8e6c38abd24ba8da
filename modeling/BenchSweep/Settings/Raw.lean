import BenchSweep.Suite.Basic

/-! # Settings as written

    The settings that a file or the command line can make, with nothing checked
    but their types.  What is left out has its default. -/

namespace BenchSweep

/-- The sweep as written. -/
structure RawSweep where
  durationSecs : UInt64 := 20
  runs         : UInt32 := 5
  threads      : List UInt32 := [1, 2, 4, 8, 10, 16, 20, 24, 32, 40]
  ratios       : List UInt32 := [1000, 100, 10]
deriving DecidableEq, Repr

/-- How trials are run, as written. -/
structure RawRunner where
  binDir            : String := "bin"
  workDir?          : Option String := none
  timeoutMultiplier : UInt32 := 3
  minSuccesses      : UInt32 := 1
deriving DecidableEq, Repr

/-- A variant as written. -/
structure RawVariant where
  name  : String
  label : String := ""
deriving DecidableEq, Repr

/-- A suite as written. -/
structure RawSuite where
  name        : String
  executable? : Option String := none
  encoding    : Encoding := .flags
  keys?       : Option UInt64 := none
  marker?     : Option String := none
  variants    : List RawVariant
deriving DecidableEq, Repr

/-- All settings as written. -/
structure RawConfig where
  sweep   : RawSweep := {}
  runner  : RawRunner := {}
  suites? : Option (List RawSuite) := none
deriving DecidableEq, Repr

/-- Settings that replace those of a file. -/
structure Overrides where
  durationSecs? : Option UInt64 := none
  runs?         : Option UInt32 := none
  threads?      : Option (List UInt32) := none
  ratios?       : Option (List UInt32) := none
  suites        : List String := []
deriving DecidableEq, Repr

/-- A sweep with some of its settings replaced. -/
def RawSweep.override (raw : RawSweep) (o : Overrides) : RawSweep :=
  { durationSecs := o.durationSecs?.getD raw.durationSecs
    runs := o.runs?.getD raw.runs
    threads := o.threads?.getD raw.threads
    ratios := o.ratios?.getD raw.ratios }

end BenchSweep
