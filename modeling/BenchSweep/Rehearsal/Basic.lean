import BenchSweep.Machine.Basic
import BenchSweep.Rehearsal.Files
import BenchSweep.Rehearsal.Script
import BenchSweep.Run.Interrupt

/-! # Rehearsals

    A rehearsal is a run on a machine in memory: files are a tree of values,
    processes follow a script, and everything that happens is written down.
    Nothing is launched, and the same rehearsal always goes the same way. -/

namespace BenchSweep

namespace Rehearsal

/-- A process that has been launched. -/
structure Invocation where
  program   : String
  workDir   : Place
  arguments : List String
deriving DecidableEq

/-- The state of a machine in memory.  An output file stays open once it has been
    created. -/
structure State where
  files       : Files := .empty
  output?     : Option Place := none
  script      : List Part := []
  invocations : List Invocation := []
  interrupt   : Interrupt := .new
  out         : String := ""
  err         : String := ""
  events      : List Event := []
  stamp       : Instant := ⟨0, 0⟩
  host        : Host := { hostname := "rehearsal", os := "unknown", kernel := none,
                          cpuModel := "unknown", logicalCpus := 1, memoryBytes := 0 }
deriving DecidableEq

namespace State

/-- The working directory of a launch.  It is entered before the program is
    looked for. -/
def enter (s : State) : Option String → Except Objection Place
  | none     => .ok []
  | some dir => s.files.directory dir

/-- What a launch would execute.  A name without a slash is looked up among the
    installed programs, of which there are none; with a working directory of its
    own, a launch has its program's path completed first. -/
def resolve (s : State) (l : Launch) : Except Objection (Place × Node) :=
  if l.workDir?.isNone ∧ ¬ l.executable.contains '/' then
    .error (if longestName < l.executable.utf8ByteSize then .longName else .notFound)
  else if l.executable = "" then .error .denied
  else s.files.executable l.executable

/-- The program and the working directory of a launch.  A file that is open for
    writing cannot be launched. -/
def prepare (s : State) (l : Launch) : Except Objection (Place × Place) := do
  if hasZero l.executable || (l.workDir?.map hasZero).getD false then
    throw .zeroInArgument
  let dir ← s.enter l.workDir?
  let (program, node) ← s.resolve l
  if s.output? = some program then throw .busy
  if node ≠ .program then throw .notProgram
  return (program, dir)

/-- What a launch is written down as. -/
def invocation (program dir : Place) (l : Launch) : Invocation :=
  { program := program.getLast?.getD "", workDir := dir, arguments := l.arguments }

/-- Launches the next part of the script. -/
def launch (s : State) (l : Launch) : Ending × State :=
  match s.prepare l with
  | .error objection => (.notLaunched (l.executable ++ ": " ++ objection.message), s)
  | .ok (program, dir) =>
      let part := partAt s.script s.invocations.length
      let ending := part.ending l.deadline s.interrupt.fired
      let interrupt := if part.interrupts then s.interrupt.trigger 0 else s.interrupt
      (ending,
        { s with invocations := s.invocations ++ [invocation program dir l], interrupt })

/-- What reading a file finds; a program is no text. -/
def contents (s : State) (path : String) : Contents :=
  match s.files.find path with
  | .error _               => .absent
  | .ok (_, .directory)    => .unreadable Objection.isDirectory.message
  | .ok (_, .program)      => .unreadable notTextReason
  | .ok (_, .file bytes _) => .bytes bytes

/-- Changes the files, or says why not. -/
def change (s : State) (files : Except Objection Files) : Except String Unit × State :=
  match files with
  | .error objection => (.error objection.message, s)
  | .ok files        => (.ok (), { s with files })

/-- Creates an output file, which is empty at first. -/
def create (s : State) (path : String) : Except String Unit × State :=
  let (result, s) := s.change (s.files.write path [])
  match result with
  | .error reason => (.error reason, s)
  | .ok ()        => (.ok (), { s with output? := (s.files.locate path).toOption })

/-- Makes directories; what could be made stays made. -/
def makeDirs (s : State) (path : String) : Except String Unit × State :=
  let (result, files) := s.files.makeDirs path
  (result.mapError Objection.message, { s with files })

/-- Writes at the end of a file. -/
def append (s : State) (path text : String) : Except String Unit × State :=
  s.change do
    let old ← s.files.read path
    s.files.write path (old ++ Text.encodeUtf8 text)

end State

/-- **THE MACHINE IN MEMORY.** -/
def machine : Machine (StateM State) where
  print text := fun s => (.ok (), { s with out := s.out ++ text })
  complain text := fun s => ((), { s with err := s.err ++ text })
  read path := fun s => (s.contents path, s)
  create path := fun s => s.create path
  append path text := fun s => s.append path text
  write path text := fun s => s.change (s.files.write path (Text.encodeUtf8 text))
  makeDirs path := fun s => s.makeDirs path
  launch l := fun s => s.launch l
  isInterrupted := fun s => (s.interrupt.fired, s)
  log event := fun s => ((), { s with events := s.events ++ [event] })
  now := fun s => (s.stamp, s)
  host := fun s => (s.host, s)

end Rehearsal

end BenchSweep
