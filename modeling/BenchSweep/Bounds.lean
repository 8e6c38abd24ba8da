import BenchSweep.Fault
import BenchSweep.Text.Numeral

/-! # Bounded quantities

    The four numbers of a sweep: threads per trial, share of writes, number of
    repetitions and length of a trial.  Each is a machine word together with the
    bounds it was checked against when it was made. -/

namespace BenchSweep

/-- How many worker threads a trial asks for: at least one. -/
structure ThreadCount where
  val      : UInt32
  positive : 0 < val
deriving DecidableEq

/-- A share of writes in parts per thousand: at most all. -/
structure Permil where
  val  : UInt32
  le_thousand : val ≤ 1000
deriving DecidableEq

/-- How often each configuration is repeated: at least once. -/
structure RunCount where
  val      : UInt32
  positive : 0 < val
deriving DecidableEq

/-- At least one repetition is asked for. -/
theorem RunCount.toNat_pos (runs : RunCount) : 0 < runs.val.toNat := by
  have h := UInt32.lt_iff_toNat_lt.mp runs.positive
  simpa using h

/-- The longest accepted trial, one week in seconds. -/
def maxTrialSecs : UInt64 := 604800

/-- The length of a trial in whole seconds: at least one second, at most a
    week. -/
structure TrialDuration where
  secs     : UInt64
  positive : 0 < secs
  le_week  : secs ≤ maxTrialSecs
deriving DecidableEq

/-- Zero threads are refused. -/
def ThreadCount.ofWord (n : UInt32) : Except Fault ThreadCount :=
  if h : 0 < n then .ok ⟨n, h⟩
  else .error (.refused .threads (toString n.toNat) .noThreads)

/-- More than a thousand permil are refused. -/
def Permil.ofWord (n : UInt32) : Except Fault Permil :=
  if h : n ≤ 1000 then .ok ⟨n, h⟩
  else .error (.ratioOutOfRange n)

/-- Zero repetitions are refused. -/
def RunCount.ofWord (n : UInt32) : Except Fault RunCount :=
  if h : 0 < n then .ok ⟨n, h⟩
  else .error (.refused .runs (toString n.toNat) .noRuns)

/-- Trials without length and trials of more than a week are refused. -/
def TrialDuration.ofSecs (n : UInt64) : Except Fault TrialDuration :=
  if h : 0 < n then
    if h' : n ≤ maxTrialSecs then .ok ⟨n, h, h'⟩
    else .error (.refused .durationSecs (toString n.toNat) (.longDuration maxTrialSecs.toNat))
  else .error (.refused .durationSecs (toString n.toNat) .noDuration)

/-- Decimal text of a thread count. -/
def ThreadCount.text (t : ThreadCount) : String := toString t.val.toNat

/-- Decimal text of a share, without unit. -/
def Permil.text (r : Permil) : String := toString r.val.toNat

/-- Decimal text of a repetition count. -/
def RunCount.text (n : RunCount) : String := toString n.val.toNat

/-- Decimal text of a duration, with its unit. -/
def TrialDuration.text (d : TrialDuration) : String := toString d.secs.toNat ++ "s"

/-- A share as a percentage with one decimal. -/
def Permil.percent (r : Permil) : String :=
  toString (r.val.toNat / 10) ++ "." ++ toString (r.val.toNat % 10)

end BenchSweep
