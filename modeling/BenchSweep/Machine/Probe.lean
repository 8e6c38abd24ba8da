import BenchSweep.Report.Record
import BenchSweep.Text.Blank
import BenchSweep.Text.Line

/-! # Describing a machine

    A machine is described by a few texts it keeps about itself: its name, the
    release of its system and kernel, its processors and its memory.  What such
    a text does not tell is unknown. -/

namespace BenchSweep

/-- What a machine tells about itself. -/
structure Probe where
  hostname   : Option String
  osRelease  : Option String
  kernel     : Option String
  processors : Option String
  memory     : Option String
deriving DecidableEq, Repr

namespace Probe

/-- A text without the blanks around it. -/
def trim (text : List Char) : List Char :=
  ((text.dropWhile Text.isBlank).reverse.dropWhile Text.isBlank).reverse

/-- The values of the lines `name` mark `value`. -/
def values (mark : Char) (name text : String) : List String :=
  (Text.lines text.toList).filterMap fun line =>
    if trim (line.takeWhile (· ≠ mark)) = name.toList then
      some (String.ofList (trim ((line.dropWhile (· ≠ mark)).drop 1)))
    else none

/-- The first value of a name that is not empty. -/
def value? (mark : Char) (name text : String) : Option String :=
  (values mark name text).find? fun value => !value.isEmpty

/-- A value without the quotes around it. -/
def unquote (value : String) : String :=
  String.ofList (value.toList.filter (· ≠ '"'))

/-- What stands for everything that is not told. -/
def unknown : String := "unknown"

/-- A text without the blanks around it, unless nothing is left. -/
def told? (text : Option String) : Option String :=
  (text.map fun t => String.ofList (trim t.toList)).filter fun t => !t.isEmpty

/-- The name of the system, with its version if that is told. -/
def os (probe : Probe) : String :=
  let release := probe.osRelease.getD ""
  match value? '=' "NAME" release, value? '=' "VERSION_ID" release with
  | some name, some version => unquote name ++ " " ++ unquote version
  | some name, none         => unquote name
  | none, _                 => unknown

/-- The number of bytes of a value in units of 1024 bytes. -/
def bytes (value : String) : Nat :=
  1024 * ((Text.value? 10 (value.toList.takeWhile (·.isDigit))).getD 0)

/-- The description that the texts add up to. -/
def host (probe : Probe) : Host :=
  let processors := probe.processors.getD ""
  { hostname := (told? probe.hostname).getD unknown
    os := probe.os
    kernel := told? probe.kernel
    cpuModel := (value? ':' "model name" processors).getD unknown
    logicalCpus := UInt64.ofNat (values ':' "processor" processors).length
    memoryBytes :=
      UInt64.ofNat (bytes ((value? ':' "MemTotal" (probe.memory.getD "")).getD "")) }

end Probe

end BenchSweep
