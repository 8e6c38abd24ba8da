import BenchSweep.Run.Bench
import BenchSweep.Settings.Load

/-! # The machine a run takes place on

    Files, processes, the terminal, the clock and the operator, as far as the
    program has to do with them.  They are gathered as a record of operations
    over a monad: the program itself never says which machine it is on.
    A failed operation gives its reason in words. -/

namespace BenchSweep

/-- The operations of a machine. -/
structure Machine (m : Type → Type) where
  /-- Writes to standard output. -/
  print : String → m (Except String Unit)
  /-- Writes to standard error. -/
  complain : String → m Unit
  /-- Reads a whole file. -/
  read : String → m Contents
  /-- Makes an empty file, or empties one. -/
  create : String → m (Except String Unit)
  /-- Writes at the end of a file. -/
  append : String → String → m (Except String Unit)
  /-- Writes a whole file. -/
  write : String → String → m (Except String Unit)
  /-- Makes a directory and all directories above it. -/
  makeDirs : String → m (Except String Unit)
  /-- Launches a process and waits for its end. -/
  launch : Launch → m Ending
  /-- Whether the operator has asked for the end. -/
  isInterrupted : m Bool
  /-- Takes an entry of the log. -/
  log : Event → m Unit
  /-- The present time. -/
  now : m Instant
  /-- The machine's own description. -/
  host : m Host

namespace Machine

variable {m : Type → Type} [Monad m] (machine : Machine m)

/-- Writes one record: first its main part, then what ends it. -/
def writeRecord (format : Format) (write : String → m (Except String Unit)) (r : Record) :
    m (Except ReportFault Unit) := do
  match ← write (r.body format) with
  | .error reason => return .error (format.bodyFault reason)
  | .ok () =>
      match ← write format.ending with
      | .error reason => return .error (.write reason)
      | .ok ()        => return .ok ()

/-- The sink that writes records in a given form. -/
def sink (format : Format) (write : String → m (Except String Unit)) : Sink m where
  begin dims suites := do
    let startedAt ← machine.now
    let host ← machine.host
    writeRecord format write (.header { startedAt, host, dimensions := dims, suites })
  publish a := writeRecord format write (.aggregate a)

/-- The bench on this machine. -/
def bench (runner : Runner) (sink : Sink m) (captureDir? : Option String) : Bench m where
  isInterrupted := machine.isInterrupted
  perform t := machine.launch (runner.launch t)
  sink := sink
  capture? := captureDir?.map fun dir => { dir, write := machine.write }
  log := machine.log

end Machine

end BenchSweep
