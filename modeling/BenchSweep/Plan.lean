import BenchSweep.Binary64.Round
import BenchSweep.Run.Deadline
import BenchSweep.Sweep.Basic

/-! # Plans

    A plan says beforehand what a run of a configuration will do: for every suite
    how many configurations it measures, in how many trials and how long that
    takes, and the sums over all suites.  Trials are counted by a 64-bit word, and
    so are the whole seconds of a stretch of time.  A plan that cannot be counted
    has no total: its table ends before the row that is too much. -/

namespace BenchSweep

/-- What a run will do for one suite. -/
structure PlanRow where
  suite          : SuiteName
  variants       : Nat
  configurations : Nat
  trials         : Nat
  secs           : Nat
deriving DecidableEq

/-- What a run will do.  A suite whose trials cannot be counted has no row. -/
structure Plan where
  dims         : Dimensions
  deadlineSecs : Nat
  rows         : List (Option PlanRow)
deriving DecidableEq

/-- What all suites take together. -/
structure PlanTotal where
  trials : Nat
  secs   : Nat
deriving DecidableEq, Repr

/-- The row of a sweep, if its trials can be counted. -/
def PlanRow.ofSweep? (sweep : Sweep) : Option PlanRow := do
  return { suite := sweep.suite.name, variants := sweep.suite.variants.length,
           configurations := ← sweep.configurations?, trials := ← sweep.length?,
           secs := ← sweep.estimatedSecs? }

/-- The plan of a configuration. -/
def Plan.ofConfig (config : Config) : Plan :=
  { dims := config.sweep, deadlineSecs := config.deadline.secs,
    rows := config.catalog.suites.map fun suite => PlanRow.ofSweep? ⟨suite, config.sweep⟩ }

/-- One more row in a total, as long as trials and time can be counted. -/
def PlanTotal.add? (total : PlanTotal) (row? : Option PlanRow) : Option PlanTotal := do
  let row ← row?
  return { trials := ← word64? (total.trials + row.trials)
           secs := ← word64? (total.secs + row.secs) }

/-- The rows that fit in a total: all before the first that does not. -/
def PlanTotal.fitting (total : PlanTotal) : List (Option PlanRow) → List PlanRow
  | []           => []
  | row? :: rows =>
      match total.add? row? with
      | none       => []
      | some total => row?.toList ++ fitting total rows

/-- The total of a plan, if it can be counted. -/
def Plan.total? (plan : Plan) : Option PlanTotal :=
  plan.rows.foldlM PlanTotal.add? ⟨0, 0⟩

-- ── Text ──────────────────────────────────────────────────────────────────

/-- Hours with two decimals: the seconds as a binary64 value, divided by the
    seconds of an hour. -/
def hoursText (secs : Nat) : String :=
  let hours? := do
    let whole ← Magnitude.ofNat? secs
    Magnitude.ofRatio? whole.ratio.1 (whole.ratio.2 * 3600)
  match hours? with
  | some hours => hours.fixed 2
  | none       => "inf"

/-- One line of the table. -/
def PlanRow.line (suite variants configurations trials hours : String) : String :=
  Text.padRight 20 suite ++ " " ++ Text.padLeft 9 variants ++ " "
    ++ Text.padLeft 15 configurations ++ " " ++ Text.padLeft 8 trials ++ " "
    ++ Text.padLeft 10 hours ++ "\n"

/-- A row of the table. -/
def PlanRow.text (row : PlanRow) : String :=
  PlanRow.line row.suite.text (toString row.variants) (toString row.configurations)
    (toString row.trials) (hoursText row.secs)

/-- The dimensions of a plan. -/
def Plan.head (plan : Plan) : String :=
  "Sweep:\n"
  ++ "  Duration:      " ++ plan.dims.duration.text ++ " per trial\n"
  ++ "  Runs:          " ++ plan.dims.runs.text ++ "\n"
  ++ "  Threads:       " ++ ", ".intercalate (plan.dims.threads.map ThreadCount.text) ++ "\n"
  ++ "  Ratios (‰):    " ++ ", ".intercalate (plan.dims.ratios.map Permil.text) ++ "\n"
  ++ "  Trial timeout: " ++ toString plan.deadlineSecs ++ "s\n\n"

/-- The table of some rows. -/
def PlanRow.table (rows : List PlanRow) : String :=
  PlanRow.line "SUITE" "VARIANTS" "CONFIGURATIONS" "TRIALS" "HOURS"
    ++ String.join (rows.map PlanRow.text)

/-- The table of a plan, as far as its rows fit in a total. -/
def Plan.table (plan : Plan) : String :=
  PlanRow.table (PlanTotal.fitting ⟨0, 0⟩ plan.rows)

/-- The line of the total. -/
def PlanTotal.text (total : PlanTotal) : String :=
  "\nTotal: " ++ toString total.trials ++ " trial(s), about " ++ hoursText total.secs
    ++ " hour(s) at full duration\n"

end BenchSweep
