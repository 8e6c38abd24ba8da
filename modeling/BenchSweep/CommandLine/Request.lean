import BenchSweep.CommandLine.Argument
import BenchSweep.CommandLine.Help

/-! # Requests

    What the command line asks for: one of four commands, with the settings file
    to go by.  Arguments are read from left to right.  A switch that is not
    known where it stands, lacks its value or has a wrong one, or is given twice
    although it cannot be, is a misuse, and so is a word too many or too few. -/

namespace BenchSweep.CommandLine

/-- The four commands. -/
inductive Command where
  | run (overrides : Overrides) (format : Format) (output? rawDir? : Option String)
  | plan (overrides : Overrides)
  | list
  | validate (path : String)
deriving DecidableEq, Repr

/-- A command and the settings file it goes by. -/
structure Request where
  config? : Option String
  command : Command
deriving DecidableEq, Repr

/-- Why there is no request: the command line is wrong, or asks only about the
    program itself. -/
inductive Refused where
  | misuse
  | version
  | help (topic : Topic)
deriving DecidableEq, Repr

-- ── What has been given ───────────────────────────────────────────────────

/-- What has been given at one level. -/
structure Given where
  config?   : Option String := none
  verbose   : Bool := false
  duration? : Option UInt64 := none
  runs?     : Option UInt32 := none
  threads?  : Option (List UInt32) := none
  ratios?   : Option (List UInt32) := none
  suites    : List String := []
  format?   : Option Format := none
  output?   : Option String := none
  rawDir?   : Option String := none
  paths     : List String := []
deriving DecidableEq, Repr

/-- A value that can be given once. -/
def once {α : Type} (old new : Option α) : Except Refused (Option α) :=
  match old, new with
  | none, some a => .ok (some a)
  | _, _         => .error .misuse

/-- Values that can be given again, and then add to the ones before. -/
def again {α : Type} (old new : Option (List α)) : Except Refused (Option (List α)) :=
  match new with
  | some as => .ok (some (old.getD [] ++ as))
  | none    => .error .misuse

namespace Given

/-- One more switch with its value, at its level. -/
def switch (g : Given) (level : Level) (s : Switch) (value : List Char) :
    Except Refused Given := do
  match s with
  | .version  => .error .version
  | .help     => .error (.help (.level level))
  | .verbose  => if g.verbose then .error .misuse else .ok { g with verbose := true }
  | .config   => return { g with config? := ← once g.config? (path? value) }
  | .duration => return { g with duration? := ← once g.duration? (word64? value) }
  | .runs     => return { g with runs? := ← once g.runs? (word32? value) }
  | .threads  => return { g with threads? := ← again g.threads? (words32? value) }
  | .ratios   => return { g with ratios? := ← again g.ratios? (words32? value) }
  | .suite    => return { g with suites := g.suites ++ [String.ofList value] }
  | .format   => return { g with format? := ← once g.format? (formatNamed? value) }
  | .output   => return { g with output? := ← once g.output? (path? value) }
  | .rawDir   => return { g with rawDir? := ← once g.rawDir? (path? value) }

/-- One more word, if the level takes it. -/
def word (g : Given) (level : Level) (text : List Char) : Except Refused Given :=
  if g.paths.length < level.words.length then
    match path? text with
    | some path => .ok { g with paths := g.paths ++ [path] }
    | none      => .error .misuse
  else .error .misuse

/-- The settings that are replaced. -/
def overrides (g : Given) : Overrides :=
  { durationSecs? := g.duration?, runs? := g.runs?, threads? := g.threads?,
    ratios? := g.ratios?, suites := g.suites }

end Given

-- ── Reading ───────────────────────────────────────────────────────────────

namespace Level

/-- A cluster of short switches; the first one that has a value takes the rest of
    the cluster for it.  If nothing is left, it waits for the next argument. -/
def cluster (level : Level) : List Char → Given → Except Refused (Given × Option Switch)
  | [], g           => .ok (g, none)
  | letter :: rest, g =>
      match level.short? letter with
      | none   => .error .misuse
      | some s =>
          if s.takesValue then
            match rest with
            | []           => .ok (g, some s)
            | '=' :: value => do return (← g.switch level s value, none)
            | value        => do return (← g.switch level s value, none)
          else do level.cluster rest (← g.switch level s [])

/-- A long switch, with its value if that is in the same argument. -/
def longSwitch (level : Level) (name : List Char) (value? : Option (List Char)) (g : Given) :
    Except Refused (Given × Option Switch) :=
  match level.long? name with
  | none   => .error .misuse
  | some s =>
      match s.takesValue, value? with
      | true, none        => .ok (g, some s)
      | true, some value  => do return (← g.switch level s value, none)
      | false, none       => do return (← g.switch level s [], none)
      | false, some _     => .error .misuse

/-- All arguments behind a command.  `waiting` is a switch whose value must be the
    next argument. -/
def read (level : Level) : List String → Option Switch → Given → Except Refused Given
  | [], none, g             => .ok g
  | [], some _, _           => .error .misuse
  | text :: rest, waiting, g =>
      match Argument.ofText text.toList, waiting with
      | .word value, some s        => do level.read rest none (← g.switch level s value)
      | .word value, none          => do level.read rest none (← g.word level value)
      | .endOfSwitches, none       => rest.foldlM (fun g text => g.word level text.toList) g
      | .shorts letters, none      => do
          let (g, waiting) ← level.cluster letters g
          level.read rest waiting g
      | .long name value?, none    => do
          let (g, waiting) ← level.longSwitch name value? g
          level.read rest waiting g
      | _, some _                  => .error .misuse

end Level

/-- The arguments before the command, the command's name and the arguments behind
    it. -/
def readTop : List String → Option Switch → Given →
    Except Refused (Given × String × List String)
  | [], _, _                 => .error .misuse
  | text :: rest, waiting, g =>
      match Argument.ofText text.toList, waiting with
      | .word value, some s     => do readTop rest none (← g.switch .top s value)
      | .word _, none           => .ok (g, text, rest)
      | .shorts letters, none   => do
          let (g, waiting) ← Level.cluster .top letters g
          readTop rest waiting g
      | .long name value?, none => do
          let (g, waiting) ← Level.longSwitch .top name value? g
          readTop rest waiting g
      | _, _                    => .error .misuse

/-- What asking for help with some words leads to: the page on the command that
    they name, or on the program if there are none. -/
def refuseHelp : List String → Refused
  | []     => .help (.level .top)
  | [name] =>
      match Topic.ofCommand? name with
      | some topic => .help topic
      | none       => .misuse
  | _      => .misuse

/-- The command of a level. -/
def Level.command (level : Level) (g : Given) : Except Refused Command :=
  match level with
  | .run      => .ok (.run g.overrides (g.format?.getD .text) g.output? g.rawDir?)
  | .plan     => .ok (.plan g.overrides)
  | .list     => .ok .list
  | .validate =>
      match g.paths with
      | path :: _ => .ok (.validate path)
      | []        => .error .misuse
  | .top      => .error .misuse

/-- **THE REQUEST** of a command line.  A settings file that is named behind the
    command goes before one that is named in front of it. -/
def Request.ofArguments (arguments : List String) : Except Refused Request := do
  let (before, name, rest) ← readTop arguments none {}
  if name = "help" then .error (refuseHelp rest)
  else
    match Level.ofCommand? name with
    | none       => .error .misuse
    | some level => do
        let behind ← level.read rest none {}
        return { config? := behind.config?.or before.config?,
                 command := ← level.command behind }

end BenchSweep.CommandLine
