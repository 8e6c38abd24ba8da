import BenchSweep.Binary64.Round

/-! # Order statistics of repeated figures

    A configuration is summarised by the lower median, the extremes and the
    relative spread of its figures. -/

namespace BenchSweep

/-- The element in the middle of a list, the lower one of two. -/
def lowerMedian? (sorted : List UInt64) : Option UInt64 :=
  sorted[(sorted.length - 1) / 2]?

/-- The distance between extremes in percent of the median, as binary64
    arithmetic has it: the distance is rounded, multiplied by a hundred and
    rounded, divided by the rounded median and rounded, then cut to an integer. -/
def spreadPercent (median least greatest : UInt64) : UInt64 :=
  if median = 0 then 0
  else
    let percent? := do
      let distance ← Magnitude.ofNat? (greatest - least).toNat
      let scaled ← Magnitude.ofRatio? (100 * distance.ratio.1) distance.ratio.2
      let divisor ← Magnitude.ofNat? median.toNat
      scaled.over? divisor
    match percent? with
    | some percent => UInt64.ofNat (min percent.floor (2 ^ 64 - 1))
    | none         => UInt64.ofNat (2 ^ 64 - 1)

/-- Summary of the figures of one configuration. -/
structure Statistics where
  median : UInt64
  min    : UInt64
  max    : UInt64
  spread : UInt64
deriving DecidableEq, Repr

/-- The figures in ascending order. -/
def ascending (samples : List UInt64) : List UInt64 :=
  samples.mergeSort (fun a b => decide (a ≤ b))

/-- The summary of some figures; there is none of no figures. -/
def Statistics.ofSamples? (samples : List UInt64) : Option Statistics := do
  let sorted := ascending samples
  let median ← lowerMedian? sorted
  let least ← sorted.head?
  let greatest ← sorted.getLast?
  return { median, min := least, max := greatest,
           spread := spreadPercent median least greatest }

end BenchSweep
