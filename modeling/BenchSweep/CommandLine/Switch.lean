/-! # Switches and where they are known

    The switches of the command line, their names, values and meanings, and the
    levels on which they stand: in front of the command, or behind one of the
    four. -/

namespace BenchSweep.CommandLine

/-- The switches. -/
inductive Switch where
  | config
  | verbose
  | version
  | help
  | duration
  | runs
  | threads
  | ratios
  | suite
  | format
  | output
  | rawDir
deriving DecidableEq, Repr

namespace Switch

/-- The long name of a switch. -/
def long : Switch → String
  | .config   => "config"
  | .verbose  => "verbose"
  | .version  => "version"
  | .help     => "help"
  | .duration => "duration"
  | .runs     => "runs"
  | .threads  => "threads"
  | .ratios   => "ratios"
  | .suite    => "suite"
  | .format   => "format"
  | .output   => "output"
  | .rawDir   => "raw-dir"

/-- The letter of a switch. -/
def short? : Switch → Option Char
  | .config   => some 'c'
  | .verbose  => some 'v'
  | .version  => some 'V'
  | .help     => some 'h'
  | .duration => some 'd'
  | .runs     => some 'r'
  | .threads  => some 't'
  | .ratios   => none
  | .suite    => some 's'
  | .format   => some 'f'
  | .output   => some 'o'
  | .rawDir   => none

/-- What the value of a switch is called, if it has one. -/
def value? : Switch → Option String
  | .config   => some "CONFIG"
  | .verbose  => none
  | .version  => none
  | .help     => none
  | .duration => some "DURATION"
  | .runs     => some "RUNS"
  | .threads  => some "THREADS"
  | .ratios   => some "RATIOS"
  | .suite    => some "SUITES"
  | .format   => some "FORMAT"
  | .output   => some "OUTPUT"
  | .rawDir   => some "RAW_DIR"

/-- Whether a switch has a value. -/
def takesValue (s : Switch) : Bool := s.value?.isSome

/-- What a switch is for. -/
def purpose : Switch → String
  | .config   => "Configuration file path (built-in catalog when omitted)"
  | .verbose  => "Enable verbose logging"
  | .version  => "Print version"
  | .help     => "Print help"
  | .duration => "Seconds each trial runs for"
  | .runs     => "Repetitions per configuration"
  | .threads  => "Thread counts, comma separated"
  | .ratios   => "Write ratios in permil, comma separated"
  | .suite    => "Only sweep this suite (repeatable)"
  | .format   => "Output format [default: text] [possible values: text, json]"
  | .output   => "Write results to this file instead of stdout"
  | .rawDir   => "Store each trial's raw stdout in this directory"

end Switch

-- ── Levels ────────────────────────────────────────────────────────────────

/-- Where a switch stands: before the command, or after one of them. -/
inductive Level where
  | top
  | run
  | plan
  | list
  | validate
deriving DecidableEq, Repr

namespace Level

/-- The level behind the name of a command. -/
def ofCommand? : String → Option Level
  | "run"      => some .run
  | "plan"     => some .plan
  | "list"     => some .list
  | "validate" => some .validate
  | _          => none

/-- The switches that replace settings of the sweep, with those that are known
    everywhere among them. -/
def sweepSwitches : List Switch :=
  [.config, .duration, .runs, .verbose, .threads, .ratios, .suite]

/-- The switches of a level, in the order in which they are shown. -/
def switches : Level → List Switch
  | .top      => [.config, .verbose, .help, .version]
  | .run      => sweepSwitches ++ [.format, .output, .rawDir, .help]
  | .plan     => sweepSwitches ++ [.help]
  | .list     => [.config, .verbose, .help]
  | .validate => [.config, .verbose, .help]

/-- The switch of a level with a given long name. -/
def long? (level : Level) (name : List Char) : Option Switch :=
  level.switches.find? fun s => s.long.toList == name

/-- The switch of a level with a given letter. -/
def short? (level : Level) (letter : Char) : Option Switch :=
  level.switches.find? fun s => s.short? == some letter

/-- The words that a level takes: what they are called and what they are for. -/
def words : Level → List (String × String)
  | .validate => [("<FILE>", "Path to the configuration file")]
  | _         => []

end Level

end BenchSweep.CommandLine
