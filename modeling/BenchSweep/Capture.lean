import BenchSweep.Aggregate.Basic
import BenchSweep.Path
import BenchSweep.Report.Stream

/-! # Raw captures

    The output of every trial may be kept in a file of its own, named after the
    trial.  Writing goes through whatever holds the files, and a file that
    cannot be written is a fault of this one trial. -/

namespace BenchSweep

namespace Capture

/-- The file name of a trial's output. -/
def fileName (r : TrialResult) : String :=
  r.key.suite.text ++ "-" ++ r.key.variant.text ++ "-t" ++ r.key.threads.text
    ++ "-r" ++ r.key.ratio.text ++ "-" ++ toString r.repetition.toNat ++ ".txt"

/-- The path of a trial's output below a capture directory. -/
def path (dir : String) (r : TrialResult) : String :=
  Path.join dir (fileName r)

end Capture

/-- A capture directory and the way to write a file in it. -/
structure Capture (m : Type → Type) where
  dir   : String
  write : String → String → m (Except String Unit)

/-- Keeps the output of a trial, and says where. -/
def Capture.keep {m : Type → Type} [Monad m] (capture : Capture m) (r : TrialResult) :
    m (Except ReportFault String) := do
  let path := Capture.path capture.dir r
  match ← capture.write path r.stdout with
  | .ok ()         => return .ok path
  | .error reason  => return .error (.write reason)

end BenchSweep
