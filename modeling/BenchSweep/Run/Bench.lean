import BenchSweep.Capture
import BenchSweep.Run.Deadline
import BenchSweep.Run.Ending
import BenchSweep.Run.Event

/-! # What a run stands on

    A run decides which trial comes next and what is published; everything else
    is done for it: launching processes, taking records, keeping output, noting
    events.  A `Bench` gathers these services over any monad, so that the same
    run goes over real processes and over scripted ones. -/

namespace BenchSweep

/-- What is launched for one trial. -/
structure Launch where
  executable : String
  workDir?   : Option String
  arguments  : List String
  deadline   : Span
deriving DecidableEq

/-- How trials are launched: the length each is told to take, the deadline it is
    held to and the directory it runs in. -/
structure Runner where
  duration : TrialDuration
  deadline : Span
  workDir? : Option String
deriving DecidableEq

/-- The runner of a configuration. -/
def Config.trialRunner (config : Config) : Runner :=
  { duration := config.sweep.duration, deadline := config.deadline,
    workDir? := config.runner.workDir? }

/-- The launch of a trial. -/
def Runner.launch (runner : Runner) (t : Trial) : Launch :=
  { executable := t.suite.executable, workDir? := runner.workDir?,
    arguments := t.arguments runner.duration, deadline := runner.deadline }

/-- Where a run's records go. -/
structure Sink (m : Type → Type) where
  begin   : Dimensions → List SuiteName → m (Except ReportFault Unit)
  publish : Aggregate → m (Except ReportFault Unit)

/-- Everything a run needs to have done for it. -/
structure Bench (m : Type → Type) where
  isInterrupted : m Bool
  perform       : Trial → m Ending
  sink          : Sink m
  capture?      : Option (Capture m)
  log           : Event → m Unit

end BenchSweep
