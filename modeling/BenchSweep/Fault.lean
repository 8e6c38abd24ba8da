/-! # Validation faults

    Everything that can be wrong with a setting whose text was read without
    trouble.  A fault is a cause; its wording is given in one place,
    `Fault.message`. -/

namespace BenchSweep

/-- The settings a fault can point at. -/
inductive Setting where
  | suite
  | variant
  | durationSecs
  | runs
  | threads
  | ratios
  | timeoutMultiplier
  | minSuccesses
  | executable
  | throughputMarker
  | variants
  | suites
deriving DecidableEq, Repr

/-- The name a setting is written under. -/
def Setting.name : Setting → String
  | .suite             => "suite"
  | .variant           => "variant"
  | .durationSecs      => "duration_secs"
  | .runs              => "runs"
  | .threads           => "threads"
  | .ratios            => "ratios"
  | .timeoutMultiplier => "timeout_multiplier"
  | .minSuccesses      => "min_successes"
  | .executable        => "executable"
  | .throughputMarker  => "throughput_marker"
  | .variants          => "variants"
  | .suites            => "suites"

/-- Why one value of a setting is refused. -/
inductive Refusal where
  | emptyName
  | longName (bytes : Nat)
  | forbiddenCharacter
  | noThreads
  | noRuns
  | noDuration
  | longDuration (limit : Nat)
  | noMultiplier
  | successesOutOfRange (runs : UInt32)
  | emptyExecutable (suite : String)
  | blankMarker
  | listedTwice
deriving DecidableEq, Repr

/-- The wording of a refusal. -/
def Refusal.message : Refusal → String
  | .emptyName => "Name cannot be empty"
  | .longName bytes => "Name too long: " ++ toString bytes ++ " chars (max 64)"
  | .forbiddenCharacter =>
      "Name must contain only ASCII alphanumerics, hyphens, and underscores"
  | .noThreads => "Thread count must be positive"
  | .noRuns => "At least one run is required"
  | .noDuration => "Duration must be greater than 0"
  | .longDuration limit => "Duration cannot exceed " ++ toString limit ++ " seconds"
  | .noMultiplier => "Multiplier must be at least 1"
  | .successesOutOfRange runs => "Must be between 1 and runs (" ++ toString runs.toNat ++ ")"
  | .emptyExecutable suite => "Executable path for suite " ++ suite ++ " cannot be empty"
  | .blankMarker => "Marker cannot be blank"
  | .listedTwice => "Listed more than once"

/-- What can be wrong with settings. -/
inductive Fault where
  | refused (setting : Setting) (value : String) (why : Refusal)
  | emptyList (setting : Setting)
  | ratioOutOfRange (value : UInt32)
  | duplicateSuite (name : String)
  | duplicateVariant (variant suite : String)
  | unknownSuite (name : String)
deriving DecidableEq, Repr

/-- The wording of a fault. -/
def Fault.message : Fault → String
  | .refused setting value why =>
      "Invalid field value: " ++ setting.name ++ " = " ++ value ++ " - " ++ why.message
  | .emptyList setting =>
      "Empty list: " ++ setting.name ++ " must contain at least one entry"
  | .ratioOutOfRange value =>
      "Ratio out of range: " ++ toString value.toNat ++ " permil (max 1000)"
  | .duplicateSuite name => "Duplicate suite name: " ++ name
  | .duplicateVariant variant suite =>
      "Duplicate variant name: " ++ variant ++ " in suite " ++ suite
  | .unknownSuite name => "Unknown suite: " ++ name

end BenchSweep
