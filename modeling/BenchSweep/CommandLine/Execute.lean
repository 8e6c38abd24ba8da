import BenchSweep.CommandLine.Request
import BenchSweep.Machine.Basic
import BenchSweep.Plan
import BenchSweep.Run.Basic
import BenchSweep.Settings.Overview

/-! # Carrying out requests

    Every command loads its configuration first.  Results go to standard output,
    everything else to standard error, and the exit status says how it went. -/

namespace BenchSweep.CommandLine

/-- How the program ends. -/
inductive Exit where
  | success
  | failure
  | misuse
  | overflow
  | interrupted
deriving DecidableEq, Repr

/-- The exit status. -/
def Exit.code : Exit → Nat
  | .success     => 0
  | .failure     => 1
  | .misuse      => 2
  | .overflow    => 101
  | .interrupted => 130

/-- The line that names the program and its version. -/
def versionLine : String := "orcbench " ++ toolVersion ++ "\n"

/-- A trouble with the chain of its causes; they are numbered if there are
    several. -/
def chainText (trouble : String) (causes : List String) : String :=
  let lines :=
    match causes with
    | [cause] => "    " ++ cause ++ "\n"
    | causes  =>
        String.join (causes.zipIdx.map fun (cause, n) =>
          Text.padLeft 5 (toString n) ++ ": " ++ cause ++ "\n")
  "Error: " ++ trouble ++ "\n\nCaused by:\n" ++ lines

/-- What lies behind a reporting fault. -/
def causesOf (fault : ReportFault) : List String :=
  match fault with
  | .write reason     => [fault.message, reason]
  | .serialize reason => [fault.message, reason]

/-- What lies behind a run's fault. -/
def causesOfRun (fault : RunFault) : List String :=
  match fault with
  | .interrupted => [fault.message]
  | .report why  => fault.message :: causesOf why

/-- What is said after a run. -/
def closing (s : Summary) : String :=
  "\nTrials: " ++ toString s.trials ++ " (" ++ toString s.failedTrials
  ++ " failed)   Aggregates: " ++ toString s.aggregates ++ " ("
  ++ toString s.failedAggregates ++ " failed)\n"
  ++ (if s.interrupted then
        "Interrupted; " ++ toString s.discarded ++ " incomplete configuration(s) discarded\n"
      else "")

variable {m : Type → Type} [Monad m] (machine : Machine m)

/-- The configuration of a settings file, or of the defaults. -/
def loadConfig (path? : Option String) (overrides : Overrides) :
    m (Except LoadFault Config) := do
  match path? with
  | none      => return Settings.defaults overrides
  | some path => return Settings.loadFile path (← machine.read path) overrides

/-- Says why there is no configuration. -/
def complainOfConfig (fault : LoadFault) : m Exit := do
  machine.complain ("✗ Configuration error: " ++ fault.message ++ "\n")
  return .failure

/-- Says what went wrong on the way. -/
def complainOf (trouble : String) (causes : List String) : m Exit := do
  machine.complain (chainText trouble causes)
  return .failure

/-- Shows the catalog. -/
def list (config? : Option String) : m Exit := do
  match ← loadConfig machine config? {} with
  | .error fault => complainOfConfig machine fault
  | .ok config   => do
      let _ ← machine.print config.catalog.listing
      return .success

/-- Shows what a run would do. -/
def plan (config? : Option String) (overrides : Overrides) : m Exit := do
  match ← loadConfig machine config? overrides with
  | .error fault => complainOfConfig machine fault
  | .ok config   => do
      let plan := Plan.ofConfig config
      let _ ← machine.print (plan.head ++ plan.table)
      match plan.total? with
      | none       => return .overflow
      | some total => do
          let _ ← machine.print total.text
          return .success

/-- Checks a settings file. -/
def validate (path : String) : m Exit := do
  match ← loadConfig machine (some path) {} with
  | .error fault => do
      machine.complain ("✗ Configuration validation failed:\n  " ++ fault.message ++ "\n")
      return .failure
  | .ok config   => do
      let _ ← machine.print config.overview
      return .success

/-- Makes the output file of a run, if there is one, and says how records are
    written. -/
def openOutput (output? : Option String) :
    m (Except String (String → m (Except String Unit))) := do
  match output? with
  | none      => return .ok machine.print
  | some path =>
      match ← machine.create path with
      | .error reason => return .error reason
      | .ok ()        => return .ok (machine.append path)

/-- Makes the directory of raw captures, if there is one. -/
def openCapture (rawDir? : Option String) : m (Except ReportFault Unit) := do
  match rawDir? with
  | none     => return .ok ()
  | some dir =>
      match ← machine.makeDirs dir with
      | .error reason => return .error (.write reason)
      | .ok ()        => return .ok ()

/-- Says how a run went.  A run that breaks off over a count says nothing. -/
def conclude : Except Abort Summary → m Exit
  | .error (.fault why) => complainOf machine "sweep aborted" (causesOfRun why)
  | .error .overflow    => return .overflow
  | .ok summary         => do
      machine.complain (closing summary)
      return if summary.interrupted then .interrupted else .success

/-- Runs a configuration. -/
def run (config? : Option String) (overrides : Overrides) (format : Format)
    (output? rawDir? : Option String) : m Exit := do
  match ← loadConfig machine config? overrides with
  | .error fault => complainOfConfig machine fault
  | .ok config   => do
      match ← openOutput machine output? with
      | .error reason =>
          complainOf machine ("creating output file " ++ output?.getD "") [reason]
      | .ok write => do
          match ← openCapture machine rawDir? with
          | .error fault =>
              complainOf machine "creating raw capture directory" (causesOf fault)
          | .ok () => do
              let bench := machine.bench config.trialRunner (machine.sink format write) rawDir?
              conclude machine (← bench.run config)

/-- **CARRIES OUT** a command line. -/
def execute (arguments : List String) : m Exit := do
  match Request.ofArguments arguments with
  | .error .misuse       => return .misuse
  | .error (.help topic) => do
      let _ ← machine.print topic.page
      return .success
  | .error .version      => do
      let _ ← machine.print versionLine
      return .success
  | .ok request =>
      match request.command with
      | .list          => list machine request.config?
      | .plan o        => plan machine request.config? o
      | .validate path => validate machine path
      | .run o format output? rawDir? =>
          run machine request.config? o format output? rawDir?

end BenchSweep.CommandLine
