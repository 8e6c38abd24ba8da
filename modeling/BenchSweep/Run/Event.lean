import BenchSweep.Aggregate.Basic
import BenchSweep.Json.Basic

/-! # The log of a run

    What a run reports while it goes on, at the levels of information and
    warning. -/

namespace BenchSweep

/-- The levels of log entries. -/
inductive Severity where
  | info
  | warn
deriving DecidableEq, Repr

/-- The name of a level. -/
def Severity.name : Severity → String
  | .info => "INFO"
  | .warn => "WARN"

/-- What is worth an entry in the log. -/
inductive Event where
  | unexpressedDimensions (suite : SuiteName) (encoding : Encoding) (configurations : Nat)
  | suiteStarted (suite : SuiteName) (variants trials estimatedSecs : Nat)
  | trialFinished (key : Key) (repetition : UInt32) (ops : UInt64)
  | trialFailed (key : Key) (repetition : UInt32) (exitCode : Option Int) (why : Failure)
  | captureFailed (dir error : String)
  | interrupted (suite : SuiteName) (variant : VariantName) (discarded : Nat)
  | tooFewSuccesses (key : Key) (successes runs : Nat)
deriving DecidableEq

namespace Event

/-- The level of an entry. -/
def severity : Event → Severity
  | .suiteStarted ..  => .info
  | .trialFinished .. => .info
  | _                 => .warn

/-- The wording of an entry. -/
def message : Event → String
  | .unexpressedDimensions .. =>
      "Encoding cannot pass thread count or ratio; every configuration runs the executable's defaults"
  | .suiteStarted ..    => "Starting suite"
  | .trialFinished ..   => "Trial finished"
  | .trialFailed ..     => "Trial failed"
  | .captureFailed ..   => "Failed to capture trial output"
  | .interrupted ..     => "Sweep interrupted"
  | .tooFewSuccesses .. => "Configuration has too few successful trials"

/-- A configuration in an entry. -/
def keyFields (key : Key) : List (String × Json) :=
  [("suite", .text key.suite.text), ("variant", .text key.variant.text),
   ("threads", .text key.threads.text), ("ratio", .text key.ratio.text)]

/-- An exit code in an entry. -/
def exitCodeText : Option Int → String
  | some n => "Some(" ++ toString n ++ ")"
  | none   => "None"

/-- What an entry tells apart from its wording. -/
def details : Event → List (String × Json)
  | .unexpressedDimensions suite encoding configurations =>
      [("suite", .text suite.text), ("encoding", .text encoding.name),
       ("configurations", .natural configurations)]
  | .suiteStarted suite variants trials estimatedSecs =>
      [("suite", .text suite.text), ("variants", .natural variants),
       ("trials", .natural trials), ("estimated_secs", .natural estimatedSecs)]
  | .trialFinished key repetition ops =>
      keyFields key ++ [("rep", .natural repetition.toNat), ("ops_per_sec", .natural ops.toNat)]
  | .trialFailed key repetition exitCode why =>
      keyFields key ++ [("rep", .natural repetition.toNat),
        ("exit_code", .text (exitCodeText exitCode)), ("error", .text why.message)]
  | .captureFailed dir error => [("dir", .text dir), ("error", .text error)]
  | .interrupted suite variant discarded =>
      [("suite", .text suite.text), ("variant", .text variant.text),
       ("discarded", .natural discarded)]
  | .tooFewSuccesses key successes runs =>
      keyFields key ++ [("successes", .natural successes), ("runs", .natural runs)]

/-- All fields of an entry. -/
def fields (e : Event) : List (String × Json) :=
  ("level", .text e.severity.name) :: ("message", .text e.message) :: e.details

end Event

end BenchSweep
