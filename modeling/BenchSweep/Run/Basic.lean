import BenchSweep.Run.Bench
import BenchSweep.Run.Summary
import BenchSweep.Sweep.Basic

/-! # Running a configuration

    The suites of a configuration are run one after the other, and each one
    along its sweep, trial by trial; trials never overlap.  An aggregate is
    published the moment its configuration is complete.

    Three things end a run early.  The interrupt is looked at before every trial
    and may strike during one: what is incomplete then is thrown away, what is
    published stays.  A sink that refuses a record is the fault of the run.  And a
    count that is no word breaks it off: of the trials of a suite, before the first
    of them, or of what has been done.  Trials that fail and output that cannot be
    kept end nothing. -/

namespace BenchSweep

/-- Where a run stands within a suite. -/
structure Progress where
  summary    : Summary
  aggregator : Aggregator
deriving DecidableEq

/-- A run is cut short: by the interrupt, by a fault, or by a count that is no
    word. -/
inductive Cut where
  | interrupted (summary : Summary)
  | fault (why : RunFault)
  | overflow
deriving DecidableEq

/-- What a run returns that is cut short. -/
def Cut.answer : Cut → Except Abort Summary
  | .interrupted s => .ok s
  | .fault why     => .error (.fault why)
  | .overflow      => .error .overflow

/-- The summary of a run that is interrupted here. -/
def Progress.stop (p : Progress) : Summary :=
  p.summary.stop p.aggregator.discard.1

/-- What the log says about a trial that has run. -/
def Event.ofResult (r : TrialResult) : Event :=
  match r.outcome with
  | .figure ops => .trialFinished r.key r.repetition ops
  | .failed why => .trialFailed r.key r.repetition r.exitCode why

namespace Bench

variable {m : Type → Type} [Monad m] (bench : Bench m)

/-- The result of one trial; the interrupt leaves none. -/
def resultOf (t : Trial) : m (Except RunFault TrialResult) := do
  match t.result? (← bench.perform t) with
  | some r => return .ok r
  | none   => return .error .interrupted

/-- Keeps the output of a trial, if that is asked for; a failure is only
    noted. -/
def keep (r : TrialResult) : m Unit :=
  match bench.capture? with
  | none         => pure ()
  | some capture => do
      match ← capture.keep r with
      | .ok _        => pure ()
      | .error fault => bench.log (.captureFailed capture.dir fault.message)

/-- Publishes an aggregate and counts it. -/
def emit (a : Aggregate) (s : Summary) : m (Except Cut Summary) := do
  match ← bench.sink.publish a with
  | .error fault => return .error (.fault (.report fault))
  | .ok () =>
      match (s.countAggregate a).checked? with
      | none   => return .error .overflow
      | some s => do
          if a.isFailed then bench.log (.tooFewSuccesses a.key a.successes a.runs)
          return .ok s

/-- Publishes aggregates in order. -/
def emitAll : List Aggregate → Summary → m (Except Cut Summary)
  | [], s      => return .ok s
  | a :: as, s => do
      match ← bench.emit a s with
      | .error cut => return .error cut
      | .ok s      => emitAll as s

/-- Takes the result of a trial in: it is counted, noted, kept and aggregated, and
    the aggregate that it completes is published. -/
def absorb (r : TrialResult) (p : Progress) : m (Except Cut Progress) := do
  match (p.summary.countTrial r.outcome).checked? with
  | none         => return .error .overflow
  | some summary => do
      bench.log (.ofResult r)
      bench.keep r
      match p.aggregator.push? r with
      | none                      => return .error .overflow
      | some (none, aggregator)   => return .ok { summary, aggregator }
      | some (some a, aggregator) =>
          match ← bench.emit a summary with
          | .error cut  => return .error cut
          | .ok summary => return .ok { summary, aggregator }

/-- One trial. -/
def step (t : Trial) (p : Progress) : m (Except Cut Progress) := do
  if ← bench.isInterrupted then return .error (.interrupted p.stop)
  else
    match ← bench.resultOf t with
    | .ok r    => bench.absorb r p
    | .error _ =>
        bench.log (.interrupted t.suite.name t.variant.name p.stop.discarded)
        return .error (.interrupted p.stop)

/-- `count` trials of a sweep, the first of them at `position`. -/
def walk (sweep : Sweep) : (count position : Nat) → Progress → m (Except Cut Progress)
  | 0, _, p                => return .ok p
  | count + 1, position, p =>
      match sweep.trialAt? position with
      | none   => return .ok p
      | some t => do
          match ← bench.step t p with
          | .error cut => return .error cut
          | .ok p      => walk sweep count (position + 1) p

/-- One suite: all its trials, and then the configurations that are still
    incomplete. -/
def runSuite (config : Config) (suite : Suite) (s : Summary) : m (Except Cut Summary) := do
  let sweep : Sweep := ⟨suite, config.sweep⟩
  match sweep.length? with
  | none       => return .error .overflow
  | some total => do
      bench.log (.suiteStarted suite.name suite.variants.length total (sweep.secsOf total))
      let aggregator := Aggregator.new config.sweep.runs config.runner.minSuccesses
      match ← bench.walk sweep total 0 { summary := s, aggregator } with
      | .error cut => return .error cut
      | .ok p      => bench.emitAll p.aggregator.flush.1 p.summary

/-- Some suites in order. -/
def runSuites (config : Config) : List Suite → Summary → m (Except Cut Summary)
  | [], s             => return .ok s
  | suite :: suites, s => do
      match ← bench.runSuite config suite s with
      | .error cut => return .error cut
      | .ok s      => runSuites config suites s

/-- Notes that a suite cannot be told the dimensions it is swept over. -/
def warnUnexpressed (configurations : Nat) (suite : Suite) : m Unit :=
  if !suite.encoding.expressesDimensions && decide (1 < configurations) then
    bench.log (.unexpressedDimensions suite.name suite.encoding configurations)
  else pure ()

/-- **A RUN** of a configuration: the header, warnings, then every suite. -/
def run (config : Config) : m (Except Abort Summary) := do
  let suites := config.catalog.suites
  match ← bench.sink.begin config.sweep (suites.map (·.name)) with
  | .error fault => return .error (.fault (.report fault))
  | .ok () =>
      suites.forM (bench.warnUnexpressed config.sweep.perVariant)
      match ← bench.runSuites config suites {} with
      | .ok s      => return .ok s
      | .error cut => return cut.answer

end Bench

end BenchSweep
