import BenchSweep.Suite.Basic
import BenchSweep.Bounds

/-! # Configurations and trials

    A configuration is what one aggregate is published for; a trial is one
    repetition of a configuration, and its arguments tell the executable which
    one it is. -/

namespace BenchSweep

/-- One configuration: a suite's variant at a thread count and a ratio. -/
structure Key where
  suite   : SuiteName
  variant : VariantName
  threads : ThreadCount
  ratio   : Permil
deriving DecidableEq

/-- One planned launch of a suite's executable. -/
structure Trial where
  suite      : Suite
  variant    : Variant
  threads    : ThreadCount
  ratio      : Permil
  repetition : UInt32
deriving DecidableEq

/-- The configuration a trial repeats. -/
def Trial.key (t : Trial) : Key :=
  { suite := t.suite.name, variant := t.variant.name, threads := t.threads, ratio := t.ratio }

/-- A repetition is one launch of one run. -/
def runsPerLaunch : Nat := 1

/-- The arguments of a trial under an encoding. -/
def Encoding.arguments (encoding : Encoding) (t : Trial) (duration : TrialDuration) :
    List String :=
  match encoding with
  | .flags =>
      [t.variant.name.text,
       "--duration=" ++ toString duration.secs.toNat,
       "--runs=" ++ toString runsPerLaunch,
       "--threads=" ++ t.threads.text,
       "--ratios=" ++ t.ratio.text]
        ++ (t.suite.keys.toList.map fun k => "--keys=" ++ toString k.toNat)
  | .positional =>
      [t.variant.name.text, toString duration.secs.toNat, toString runsPerLaunch]

/-- The arguments of a trial as its suite takes them. -/
def Trial.arguments (t : Trial) (duration : TrialDuration) : List String :=
  t.suite.encoding.arguments t duration

end BenchSweep
