import BenchSweep.Rehearsal.Basic

/-! # Sinks in a rehearsal

    A sink in memory writes its records to a stream beside the machine.  It can
    be told to refuse the header or one of the aggregates, and to interrupt the
    run once it has taken a number of them. -/

namespace BenchSweep.Rehearsal

/-- How a sink in memory behaves. -/
structure SinkPlan where
  format          : Format
  writesHeader    : Bool := true
  refusesHeader   : Bool := false
  refusedEmit?    : Option Nat := none
  interruptAfter? : Option Nat := none
deriving DecidableEq

/-- A rehearsal together with what its sink has taken. -/
structure Stage where
  state   : State
  stream  : Stream := .empty none
  offered : Nat := 0
  taken   : Nat := 0
deriving DecidableEq

/-- The reason of a sink that refuses a record. -/
def closedReason : String := "sink closed"

namespace Stage

/-- Writes a record to the stream. -/
def publish (stage : Stage) (format : Format) (r : Record) : Except ReportFault Unit × Stage :=
  let (answer, stream) := stage.stream.publish format r
  (answer, { stage with stream })

/-- Offers the header. -/
def begin (stage : Stage) (plan : SinkPlan) (dims : Dimensions) (suites : List SuiteName) :
    Except ReportFault Unit × Stage :=
  if plan.refusesHeader then (.error (.write closedReason), stage)
  else if plan.writesHeader then
    stage.publish plan.format
      (.header { startedAt := stage.state.stamp, host := stage.state.host,
                 dimensions := dims, suites })
  else (.ok (), stage)

/-- One more aggregate has been taken; the interrupt may be due. -/
def count (stage : Stage) (plan : SinkPlan) : Stage :=
  let stage := { stage with taken := stage.taken + 1 }
  if plan.interruptAfter? = some stage.taken then
    { stage with state := { stage.state with interrupt := stage.state.interrupt.trigger 0 } }
  else stage

/-- Offers an aggregate. -/
def offer (stage : Stage) (plan : SinkPlan) (a : Aggregate) :
    Except ReportFault Unit × Stage :=
  let stage := { stage with offered := stage.offered + 1 }
  if plan.refusedEmit? = some stage.offered then (.error (.write closedReason), stage)
  else
    match stage.publish plan.format (.aggregate a) with
    | (.error fault, stage) => (.error fault, stage)
    | (.ok (), stage)       => (.ok (), stage.count plan)

/-- What a stage does is done by its machine. -/
def onMachine {α : Type} (act : StateM State α) : StateM Stage α := fun stage =>
  let (a, state) := act stage.state
  (a, { stage with state })

end Stage

/-- The bench of a rehearsal with a sink in memory. -/
def bench (runner : Runner) (plan : SinkPlan) (captureDir? : Option String) :
    Bench (StateM Stage) where
  isInterrupted := Stage.onMachine machine.isInterrupted
  perform t := Stage.onMachine (machine.launch (runner.launch t))
  sink :=
    { begin := fun dims suites stage => stage.begin plan dims suites
      publish := fun a stage => stage.offer plan a }
  capture? := captureDir?.map fun dir =>
    { dir, write := fun path text => Stage.onMachine (machine.write path text) }
  log event := Stage.onMachine (machine.log event)

end BenchSweep.Rehearsal
