import BenchSweep.Aggregate.Statistics
import BenchSweep.Sweep.Failure
import BenchSweep.Sweep.Trial

/-! # Aggregating repetitions

    The trials of a configuration are collected until its last repetition, or as
    many trials as there are repetitions, have been seen; then they are reduced
    to one aggregate.  Configurations are kept apart by key and in the order in
    which their first trial arrived. -/

namespace BenchSweep

/-- What one trial yielded. -/
inductive Outcome where
  | figure (ops : UInt64)
  | failed (why : Failure)
deriving DecidableEq, Repr

/-- A trial that has run. -/
structure TrialResult where
  key        : Key
  repetition : UInt32
  stdout     : String
  exitCode   : Option Int
  outcome    : Outcome
deriving DecidableEq

/-- What is published for a configuration: a summary, or that it failed. -/
inductive Measurement where
  | median (stats : Statistics)
  | failed
deriving DecidableEq, Repr

/-- The published median. -/
def Measurement.median? : Measurement → Option UInt64
  | .median stats => some stats.median
  | .failed       => none

/-- The reduction of one configuration's trials. -/
structure Aggregate where
  key         : Key
  measurement : Measurement
  successes   : Nat
  runs        : Nat
  failures    : List Failure
deriving DecidableEq

/-- Whether too few trials yielded a figure. -/
def Aggregate.isFailed (a : Aggregate) : Bool :=
  match a.measurement with
  | .median _ => false
  | .failed   => true

/-- The trials of one configuration that is not complete yet. -/
structure Pending where
  key      : Key
  seen     : Nat
  samples  : List UInt64
  failures : List Failure
deriving DecidableEq

namespace Pending

/-- A configuration without trials. -/
def fresh (key : Key) : Pending :=
  { key, seen := 0, samples := [], failures := [] }

/-- One more trial, at the end of its list. -/
def add (p : Pending) : Outcome → Pending
  | .figure ops => { p with seen := p.seen + 1, samples := p.samples ++ [ops] }
  | .failed why => { p with seen := p.seen + 1, failures := p.failures ++ [why] }

/-- The aggregate of the collected trials: a summary if at least `minSuccesses`
    of them yielded a figure. -/
def reduce (p : Pending) (runs minSuccesses : Nat) : Aggregate :=
  let measurement :=
    if minSuccesses ≤ p.samples.length then
      match Statistics.ofSamples? p.samples with
      | some stats => .median stats
      | none       => .failed
    else .failed
  { key := p.key, measurement, successes := p.samples.length, runs, failures := p.failures }

end Pending

/-- Collects trials by configuration. -/
structure Aggregator where
  runs         : Nat
  minSuccesses : Nat
  pending      : List Pending
deriving DecidableEq

namespace Aggregator

/-- An aggregator without trials.  At least one success is always required. -/
def new (runs : RunCount) (minSuccesses : UInt32) : Aggregator :=
  { runs := runs.val.toNat, minSuccesses := max minSuccesses.toNat 1, pending := [] }

/-- Whether a configuration is complete once the trial with this repetition has
    been added to it: the repetition is the last one or a later one, or all have
    been seen. -/
def completes (runs : Nat) (repetition : UInt32) (p : Pending) : Bool :=
  decide (runs ≤ repetition.toNat + 1) || decide (runs ≤ p.seen)

/-- Adds a trial to the configuration it belongs to, opening one at the end if
    there is none; a configuration that this completes is taken out. -/
def absorb (runs : Nat) (r : TrialResult) : List Pending → Option Pending × List Pending
  | [] =>
      let p := (Pending.fresh r.key).add r.outcome
      if completes runs r.repetition p then (some p, []) else (none, [p])
  | p :: ps =>
      if p.key = r.key then
        let p := p.add r.outcome
        if completes runs r.repetition p then (some p, ps) else (none, p :: ps)
      else
        let (closed, ps) := absorb runs r ps
        (closed, p :: ps)

/-- Takes one trial in; the aggregate of the configuration it completes, if it
    completes one.  Repetitions are 32-bit words, and the largest of them cannot be
    counted up. -/
def push? (a : Aggregator) (r : TrialResult) : Option (Option Aggregate × Aggregator) :=
  if r.repetition.toNat + 1 < 2 ^ 32 then
    let (closed, pending) := absorb a.runs r a.pending
    some (closed.map (·.reduce a.runs a.minSuccesses), { a with pending })
  else none

/-- The aggregates of all incomplete configurations, oldest first. -/
def flush (a : Aggregator) : List Aggregate × Aggregator :=
  (a.pending.map (·.reduce a.runs a.minSuccesses), { a with pending := [] })

/-- Forgets all incomplete configurations and says how many there were. -/
def discard (a : Aggregator) : Nat × Aggregator :=
  (a.pending.length, { a with pending := [] })

end Aggregator

end BenchSweep
