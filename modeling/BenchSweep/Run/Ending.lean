import BenchSweep.Aggregate.Basic
import BenchSweep.Text.Utf8
import BenchSweep.Throughput

/-! # How a trial ends

    A launched process ends by itself with an exit status, is stopped at the
    deadline, or is stopped because the run is interrupted.  Only a process that
    ends by itself with success yields a figure. -/

namespace BenchSweep

/-- How a process ended: with a code, which is one byte, or by a signal, which may
    have left an image of its memory behind. -/
inductive ExitStatus where
  | code (n : UInt8)
  | signal (n : Nat) (dumped : Bool)
deriving DecidableEq, Repr

namespace ExitStatus

/-- The names of the signals. -/
def signalName? : Nat → Option String
  | 1  => some "SIGHUP"
  | 2  => some "SIGINT"
  | 3  => some "SIGQUIT"
  | 4  => some "SIGILL"
  | 5  => some "SIGTRAP"
  | 6  => some "SIGABRT"
  | 7  => some "SIGBUS"
  | 8  => some "SIGFPE"
  | 9  => some "SIGKILL"
  | 10 => some "SIGUSR1"
  | 11 => some "SIGSEGV"
  | 12 => some "SIGUSR2"
  | 13 => some "SIGPIPE"
  | 14 => some "SIGALRM"
  | 15 => some "SIGTERM"
  | 16 => some "SIGSTKFLT"
  | 17 => some "SIGCHLD"
  | 18 => some "SIGCONT"
  | 19 => some "SIGSTOP"
  | 20 => some "SIGTSTP"
  | 21 => some "SIGTTIN"
  | 22 => some "SIGTTOU"
  | 23 => some "SIGURG"
  | 24 => some "SIGXCPU"
  | 25 => some "SIGXFSZ"
  | 26 => some "SIGVTALRM"
  | 27 => some "SIGPROF"
  | 28 => some "SIGWINCH"
  | 29 => some "SIGIO"
  | 30 => some "SIGPWR"
  | 31 => some "SIGSYS"
  | _  => none

/-- The wording of an exit status. -/
def message : ExitStatus → String
  | .code n   => "exit status: " ++ toString n.toNat
  | .signal n dumped =>
      let name :=
        match signalName? n with
        | some name => " (" ++ name ++ ")"
        | none      => ""
      "signal: " ++ toString n ++ name ++ (if dumped then " (core dumped)" else "")

/-- Success is code zero. -/
def isSuccess (s : ExitStatus) : Bool := s == .code 0

/-- The code, unless a signal ended the process. -/
def code? : ExitStatus → Option Int
  | .code n    => some n.toNat
  | .signal .. => none

end ExitStatus

/-- How a trial ends. -/
inductive Ending where
  | notLaunched (reason : String)
  | notWaited (reason : String)
  | exited (output : List UInt8) (status : ExitStatus)
  | stopped (output : List UInt8) (limitMs : UInt64)
  | interrupted
deriving DecidableEq, Repr

/-- What output and exit status of a process yield, given the marker. -/
def judge (marker stdout : String) (status : ExitStatus) : Outcome :=
  if status.isSuccess then
    match Throughput.extract? stdout marker with
    | some ops => .figure ops
    | none     => .failed (.unparseable marker)
  else .failed (.nonZeroExit status.message)

/-- The result of a trial that ended; an interrupted trial has none. -/
def Trial.result? (t : Trial) : Ending → Option TrialResult
  | .notLaunched reason =>
      some { key := t.key, repetition := t.repetition, stdout := "", exitCode := none,
             outcome := .failed (.launch reason) }
  | .notWaited reason =>
      some { key := t.key, repetition := t.repetition, stdout := "", exitCode := none,
             outcome := .failed (.wait reason) }
  | .exited output status =>
      let stdout := String.ofList (Text.decodeUtf8 output)
      some { key := t.key, repetition := t.repetition, stdout, exitCode := status.code?,
             outcome := judge t.suite.marker stdout status }
  | .stopped output limitMs =>
      some { key := t.key, repetition := t.repetition,
             stdout := String.ofList (Text.decodeUtf8 output), exitCode := none,
             outcome := .failed (.timeout limitMs) }
  | .interrupted => none

end BenchSweep
