import BenchSweep.Report.Stream

/-! # The summary of a run

    A run counts its trials and its aggregates, and the failed ones among
    them, each by a 64-bit word. -/

namespace BenchSweep

/-- The counts of a run. -/
structure Summary where
  trials           : Nat := 0
  failedTrials     : Nat := 0
  aggregates       : Nat := 0
  failedAggregates : Nat := 0
  discarded        : Nat := 0
  interrupted      : Bool := false
deriving DecidableEq, Repr

namespace Summary

/-- One more trial. -/
def countTrial (s : Summary) : Outcome → Summary
  | .figure _ => { s with trials := s.trials + 1 }
  | .failed _ => { s with trials := s.trials + 1, failedTrials := s.failedTrials + 1 }

/-- One more published aggregate. -/
def countAggregate (s : Summary) (a : Aggregate) : Summary :=
  { s with
    aggregates := s.aggregates + 1
    failedAggregates := if a.isFailed then s.failedAggregates + 1 else s.failedAggregates }

/-- All counts are 64-bit words. -/
structure Fits (s : Summary) : Prop where
  trials           : s.trials < 2 ^ 64
  failedTrials     : s.failedTrials < 2 ^ 64
  aggregates       : s.aggregates < 2 ^ 64
  failedAggregates : s.failedAggregates < 2 ^ 64

instance (s : Summary) : Decidable s.Fits :=
  decidable_of_iff (s.trials < 2 ^ 64 ∧ s.failedTrials < 2 ^ 64 ∧ s.aggregates < 2 ^ 64 ∧
      s.failedAggregates < 2 ^ 64)
    ⟨fun h => ⟨h.1, h.2.1, h.2.2.1, h.2.2.2⟩, fun h => ⟨h.1, h.2, h.3, h.4⟩⟩

/-- The counts, if they are words. -/
def checked? (s : Summary) : Option Summary := if s.Fits then some s else none

/-- The run ends early, and incomplete configurations are thrown away.  Until then
    none was, and they are as many as a list holds. -/
def stop (s : Summary) (discarded : Nat) : Summary :=
  { s with discarded := s.discarded + discarded, interrupted := true }

end Summary

/-- What can go wrong in a run, or with a single trial. -/
inductive RunFault where
  | interrupted
  | report (fault : ReportFault)
deriving DecidableEq, Repr

/-- The wording of a fault. -/
def RunFault.message : RunFault → String
  | .interrupted  => "Sweep interrupted by operator"
  | .report fault => "Report error: " ++ fault.message

/-- Why a run has no summary: a fault, or a count that is no word, where the program
    breaks off without a word of its own. -/
inductive Abort where
  | fault (why : RunFault)
  | overflow
deriving DecidableEq, Repr

end BenchSweep
