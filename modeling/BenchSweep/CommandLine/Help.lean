import BenchSweep.CommandLine.Switch
import BenchSweep.Text.Numeral

/-! # Help

    A page of help for the program, for each of its commands, and for the command
    that shows these pages.  A page says what its subject does and how it is
    called, and lists commands, words and switches in two columns. -/

namespace BenchSweep.CommandLine

/-- What a page of help is about. -/
inductive Topic where
  | level (level : Level)
  | help
deriving DecidableEq, Repr

/-- The name of a switch as it is shown: its letter, its long name and what its
    value is called. -/
def Switch.heading (s : Switch) : String :=
  (match s.short? with
   | some c => String.ofList ['-', c, ',', ' ']
   | none   => "    ")
  ++ "--" ++ s.long
  ++ (match s.value? with
      | some name => " <" ++ name ++ ">"
      | none      => "")

namespace Topic

/-- The topic behind the name of a command. -/
def ofCommand? (name : String) : Option Topic :=
  if name = "help" then some .help else (Level.ofCommand? name).map .level

/-- What the subject does. -/
def purpose : Topic → String
  | .level .top      => "CLI for running orcbench benchmark sweeps"
  | .level .run      => "Run the sweep and stream aggregated results"
  | .level .plan     => "Show trial counts and estimated duration without running anything"
  | .level .list     => "List the benchmark catalog"
  | .level .validate => "Validate a configuration file"
  | .help            => "Print this message or the help of the given subcommand(s)"

/-- How the subject is called. -/
def usage : Topic → String
  | .level .top      => "orcbench [OPTIONS] <COMMAND>"
  | .level .run      => "orcbench run [OPTIONS]"
  | .level .plan     => "orcbench plan [OPTIONS]"
  | .level .list     => "orcbench list [OPTIONS]"
  | .level .validate => "orcbench validate [OPTIONS] <FILE>"
  | .help            => "orcbench help [COMMAND]..."

/-- The commands to choose from. -/
def commands : Topic → List (String × String)
  | .level .top =>
      [("run", purpose (.level .run)), ("plan", purpose (.level .plan)),
       ("list", purpose (.level .list)), ("validate", purpose (.level .validate)),
       ("help", purpose .help)]
  | _           => []

/-- The words that are taken. -/
def words : Topic → List (String × String)
  | .level l => l.words
  | .help    => [("[COMMAND]...", "Print help for the subcommand(s)")]

/-- The switches that are known. -/
def switches : Topic → List (String × String)
  | .level l => l.switches.map fun s => (s.heading, s.purpose)
  | .help    => []

/-- A list under its title, the second column behind the longest entry of the
    first; no text at all for an empty list. -/
def columns (title : String) (rows : List (String × String)) : String :=
  if rows.isEmpty then ""
  else
    let width := (rows.map fun row => row.1.length).foldl max 0
    "\n" ++ title ++ ":\n"
      ++ String.join (rows.map fun (name, purpose) =>
          "  " ++ Text.padRight (width + 2) name ++ purpose ++ "\n")

/-- **THE PAGE** on a topic. -/
def page (topic : Topic) : String :=
  topic.purpose ++ "\n\nUsage: " ++ topic.usage ++ "\n"
    ++ columns "Commands" topic.commands
    ++ columns "Arguments" topic.words
    ++ columns "Options" topic.switches

end Topic

end BenchSweep.CommandLine
