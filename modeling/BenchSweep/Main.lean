import BenchSweep.CommandLine.Execute
import BenchSweep.Machine.Probe
import Std.Time.DateTime.Timestamp

/-! # The program

    The command line on the machine at hand.  Files, terminal and clock are the
    real ones.  Processes are not within reach of this program: every launch is
    reported as one that failed, and what would be run is shown by the `plan`
    command. -/

namespace BenchSweep.Main

/-- The number of an operating system's error, if there is one. -/
def errorNumber? : IO.Error → Option (UInt32 × String)
  | .alreadyExists _ n s         => some (n, s)
  | .otherError n s              => some (n, s)
  | .resourceBusy n s            => some (n, s)
  | .resourceVanished n s        => some (n, s)
  | .unsupportedOperation n s    => some (n, s)
  | .hardwareFault n s           => some (n, s)
  | .unsatisfiedConstraints n s  => some (n, s)
  | .illegalOperation n s        => some (n, s)
  | .protocolError n s           => some (n, s)
  | .timeExpired n s             => some (n, s)
  | .interrupted _ n s           => some (n, s)
  | .noFileOrDirectory _ n s     => some (n, s)
  | .invalidArgument _ n s       => some (n, s)
  | .permissionDenied _ n s      => some (n, s)
  | .resourceExhausted _ n s     => some (n, s)
  | .inappropriateType _ n s     => some (n, s)
  | .noSuchThing _ n s           => some (n, s)
  | _                            => none

/-- The reason of a failed operation. -/
def reason (e : IO.Error) : String :=
  match errorNumber? e with
  | some (n, text) => text ++ " (os error " ++ toString n.toNat ++ ")"
  | none           => toString e

/-- An operation, or the reason why it failed. -/
def attempt (act : IO Unit) : IO (Except String Unit) := do
  try
    act
    return .ok ()
  catch e => return .error (reason e)

/-- Whether an operation failed because the path leads nowhere: a part of it is
    missing, or is no directory. -/
def leadsNowhere (e : IO.Error) : Bool :=
  match errorNumber? e with
  | some (n, _) => n == 2 || n == 20
  | none        => false

/-- Reads a whole file. -/
def read (path : String) : IO Contents := do
  try
    return .bytes (← IO.FS.readBinFile path).data.toList
  catch e => return if leadsNowhere e then .absent else .unreadable (reason e)

/-- The text of a file, if it can be read. -/
def text? (path : String) : IO (Option String) := do
  try
    return some (← IO.FS.readFile path)
  catch _ => return none

/-- The present time. -/
def now : IO Instant := do
  let time ← Std.Time.Timestamp.now
  return ⟨time.val.second.val, time.val.nano.val.toNat⟩

/-- The description of the machine. -/
def host : IO Host := do
  let probe : Probe :=
    { hostname := ← text? "/proc/sys/kernel/hostname"
      osRelease := ← text? "/etc/os-release"
      kernel := ← text? "/proc/sys/kernel/osrelease"
      processors := ← text? "/proc/cpuinfo"
      memory := ← text? "/proc/meminfo" }
  return probe.host

/-- The machine at hand. -/
def machine : Machine IO where
  print text := attempt do
    let out ← IO.getStdout
    out.putStr text
    out.flush
  complain text := IO.eprint text
  read := read
  create path := attempt (IO.FS.writeFile path "")
  append path text := attempt do
    let file ← IO.FS.Handle.mk path .append
    file.putStr text
  write path text := attempt (IO.FS.writeFile path text)
  makeDirs path := attempt (if path.isEmpty then pure () else IO.FS.createDirAll path)
  launch l := return .notLaunched (l.executable ++ ": Function not implemented (os error 38)")
  isInterrupted := return false
  log _ := return ()
  now := now
  host := host

end BenchSweep.Main

/-- Carries out the command line and ends with its exit status. -/
def main (arguments : List String) : IO UInt32 := do
  let exit ← BenchSweep.CommandLine.execute BenchSweep.Main.machine arguments
  return UInt32.ofNat exit.code
