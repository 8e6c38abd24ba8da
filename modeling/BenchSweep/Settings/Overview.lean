import BenchSweep.Settings.Validate
import BenchSweep.Text.Numeral

/-! # Showing a configuration

    Two texts for people: the catalog as a table with the variants below it, and
    an overview of a configuration that has passed all checks. -/

namespace BenchSweep

-- ── The catalog ───────────────────────────────────────────────────────────

/-- A horizontal line of the table, with its four joints. -/
def tableRule (left joint right : String) : String :=
  let bar (n : Nat) : String := String.ofList (List.replicate n '═')
  left ++ bar 19 ++ joint ++ bar 12 ++ joint ++ bar 12 ++ joint ++ bar 32 ++ right ++ "\n"

/-- A row of the table. -/
def tableRow (suite encoding keys executable : String) : String :=
  "║ " ++ Text.padRight 17 suite ++ " ║ " ++ Text.padRight 10 encoding ++ " ║ "
    ++ Text.padRight 10 keys ++ " ║ " ++ Text.padRight 30 executable ++ " ║\n"

/-- The row of a suite. -/
def Suite.row (s : Suite) : String :=
  tableRow s.name.text s.encoding.name
    (match s.keys with | some n => toString n.toNat | none => "-") s.executable

/-- The line of a variant; a label stands in a column of its own. -/
def Variant.line (v : Variant) : String :=
  if v.label.isEmpty then "  - " ++ v.name.text ++ "\n"
  else "  - " ++ Text.padRight 10 v.name.text ++ " " ++ v.label ++ "\n"

/-- The variants of a suite. -/
def Suite.paragraph (s : Suite) : String :=
  "\n" ++ s.name.text ++ ":\n" ++ String.join (s.variants.map Variant.line)

/-- The number of variants in a catalog. -/
def Catalog.variantCount (c : Catalog) : Nat :=
  (c.suites.flatMap fun s => s.variants).length

/-- A catalog as a table, with all variants below. -/
def Catalog.listing (c : Catalog) : String :=
  tableRule "╔" "═" "╗"
  ++ "║                              BENCHMARK CATALOG                               ║\n"
  ++ tableRule "╠" "╦" "╣"
  ++ tableRow "Suite" "Encoding" "Keys" "Executable"
  ++ tableRule "╠" "╬" "╣"
  ++ String.join (c.suites.map Suite.row)
  ++ tableRule "╚" "╩" "╝"
  ++ String.join (c.suites.map Suite.paragraph)
  ++ "\nTotal: " ++ toString c.suites.length ++ " suite(s), " ++ toString c.variantCount
  ++ " variant(s)\n"

-- ── The whole configuration ───────────────────────────────────────────────

/-- The line of a suite in an overview. -/
def Suite.overviewLine (s : Suite) : String :=
  "  - " ++ s.name.text ++ " (" ++ toString s.variants.length ++ " variants, encoding: "
    ++ s.encoding.name ++ ", executable: " ++ s.executable ++ ")\n"

/-- The line of the working directory, if there is one. -/
def workDirLine : Option String → String
  | some dir => "  Working Directory:  " ++ dir ++ "\n"
  | none     => ""

/-- The overview of a configuration. -/
def Config.overview (config : Config) : String :=
  "✓ Configuration is valid\n\nSweep Settings:\n"
  ++ "  Duration:           " ++ config.sweep.duration.text ++ "\n"
  ++ "  Runs:               " ++ config.sweep.runs.text ++ "\n"
  ++ "  Thread Counts:      " ++ toString config.sweep.threads.length ++ "\n"
  ++ "  Ratios:             " ++ toString config.sweep.ratios.length ++ "\n"
  ++ "\nRunner Settings:\n"
  ++ "  Binary Directory:   " ++ config.runner.binDir ++ "\n"
  ++ workDirLine config.runner.workDir?
  ++ "  Timeout Multiplier: " ++ toString config.runner.timeoutMultiplier.toNat ++ "x\n"
  ++ "  Min Successes:      " ++ toString config.runner.minSuccesses.toNat ++ "\n"
  ++ "\nSuites (" ++ toString config.catalog.suites.length ++ "):\n"
  ++ String.join (config.catalog.suites.map Suite.overviewLine)

end BenchSweep
