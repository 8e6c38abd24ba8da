import BenchSweep.Run.Bench

/-! # Scripted processes

    In a rehearsal every launched program plays the next part of a script, which
    starts again when it is through.  A part says what the process prints, how
    it exits, and whether it hangs before that; a process that does not hang
    always ends in time. -/

namespace BenchSweep.Rehearsal

/-- Whether a process hangs after its output, and what ends it then. -/
inductive Hang where
  | never
  | untilTerminated
  | untilKilled
  | untilInterrupted
deriving DecidableEq, Repr

/-- The signals that leave a process as it is unless it has asked for them. -/
def idleSignals : List Nat := [0, 17, 18, 23, 28]

/-- Whether a signal ends a process that has made no provision for it.  There are
    no signals above 64. -/
def endsProcess (signal : Nat) : Bool :=
  decide (signal ≤ 64) && !idleSignals.contains signal

/-- How a process ends that sends itself a signal and, if it is still there, exits
    with a code.  No image of its memory is kept. -/
def statusAfter (signal? : Option Nat) (code : UInt8) : ExitStatus :=
  match signal?.filter endsProcess with
  | some signal => .signal signal false
  | none        => .code code

/-- The part that one process plays. -/
structure Part where
  output : List UInt8 := []
  status : ExitStatus := .code 0
  hang   : Hang := .never
deriving DecidableEq, Repr

namespace Part

/-- Whether the operator interrupts the run while this process hangs. -/
def interrupts (part : Part) : Bool :=
  part.hang == .untilInterrupted

/-- How the process ends.  An interrupt that has fired before ends it at once.
    At the deadline it is asked to terminate, and what it has printed is
    collected; if it has to be killed, its output is lost. -/
def ending (part : Part) (deadline : Span) (interrupted : Bool) : Ending :=
  if interrupted then .interrupted
  else
    match part.hang with
    | .never            => .exited part.output part.status
    | .untilTerminated  => .stopped part.output deadline.millis
    | .untilKilled      => .stopped [] deadline.millis
    | .untilInterrupted => .interrupted

end Part

/-- The part of the launch with this number, counted from zero; without a script
    a process prints nothing and exits with success. -/
def partAt (script : List Part) (launch : Nat) : Part :=
  (script[launch % script.length]?).getD {}

end BenchSweep.Rehearsal
