import BenchSweep.Bounds
import BenchSweep.Distinct

/-! # Dimensions of a sweep

    What a sweep varies and how often it repeats: trial length, repetitions,
    thread counts and ratios. -/

namespace BenchSweep

/-- The dimensions that every suite of a run is measured over. -/
structure Dimensions where
  duration : TrialDuration
  runs     : RunCount
  threads  : List ThreadCount
  ratios   : List Permil
deriving DecidableEq

/-- A list of settings is not empty and repeats nothing. -/
def checkList {α : Type} [DecidableEq α] (setting : Setting) (text : α → String)
    (values : List α) : Except Fault Unit :=
  if values.isEmpty then .error (.emptyList setting)
  else match firstRepeat? id values with
    | some v => .error (.refused setting (text v) .listedTwice)
    | none   => .ok ()

/-- Dimensions from their parts; thread counts are tested before ratios. -/
def Dimensions.make (duration : TrialDuration) (runs : RunCount)
    (threads : List ThreadCount) (ratios : List Permil) : Except Fault Dimensions := do
  checkList .threads ThreadCount.text threads
  checkList .ratios Permil.text ratios
  return { duration, runs, threads, ratios }

/-- How many pairs of thread count and ratio there are. -/
def Dimensions.perVariant (dims : Dimensions) : Nat :=
  dims.threads.length * dims.ratios.length

end BenchSweep
