import BenchSweep.Proofs.Plan.Read
import BenchSweep.Proofs.Run.Position
import BenchSweep.Rehearsal.Basic
import BenchSweep.CommandLine.Execute
import Mathlib.Algebra.Order.BigOperators.Group.List
import Mathlib.Algebra.Order.Group.Nat

/-! # Plans that are exact

    A plan adds up what the suites of a configuration ask for.  Each suite has an
    estimate of its own, and a product that does not fit is cut to the largest word
    there; the sum over the suites is not, and a plan whose sum does not fit ends in
    an overflow.  A plan is exact, from the first suite to the last, and shows what is
    read back as its report, with hours that stand for its seconds, exactly if the
    seconds of all suites together are a 64-bit word (`plansExactly_iff`). -/

namespace BenchSweep

/-- A row with given counts; its time is that of the trials. -/
def PlanRow.ofCounts (sweep : Sweep) (configurations trials : Nat) : PlanRow :=
  { suite := sweep.suite.name, variants := sweep.suite.variants.length, configurations, trials,
    secs := sweep.secsOf trials }

/-- A sweep whose trials can be counted has the row of its cells and its trials. -/
theorem PlanRow.ofSweep?_of_lt {sweep : Sweep} (hlt : sweep.trials.length < 2 ^ 64) :
    PlanRow.ofSweep? sweep = some (.ofCounts sweep sweep.cells.length sweep.trials.length) := by
  rw [PlanRow.ofSweep?, Sweep.estimatedSecs?, Sweep.configurations?_of_lt hlt,
    Sweep.length?_of_lt hlt]
  rfl

namespace Config

variable (config : Config)

/-- How many trials a suite asks for. -/
def trialsOf (suite : Suite) : Nat :=
  suite.variants.length * config.sweep.threads.length * config.sweep.ratios.length * config.runs

/-- How many seconds they take. -/
def secsOf (suite : Suite) : Nat := config.sweep.duration.secs.toNat * config.trialsOf suite

/-- What some suites ask for together. -/
def totalOf (suites : List Suite) : PlanTotal :=
  { trials := (suites.map config.trialsOf).sum, secs := (suites.map config.secsOf).sum }

/-- What a plan has to say of a suite. -/
def rowOf (suite : Suite) : PlanRow :=
  { suite := suite.name
    variants := suite.variants.length
    configurations := suite.variants.length * config.sweep.threads.length
      * config.sweep.ratios.length
    trials := config.trialsOf suite
    secs := config.secsOf suite }

/-- What a plan has to show. -/
def report : PlanReport :=
  let total := config.totalOf config.catalog.suites
  { lines := config.catalog.suites.map fun suite => (config.rowOf suite).shown
    trials := total.trials
    hours := hoursText total.secs }

/-- The plan adds up to what the suites ask for, after every suite, and the command
    that shows it succeeds, with the rows of all suites and just that total, wherever
    the configuration has been loaded from.  What it writes is read back as the report,
    and the hours of its total stand for all seconds. -/
structure PlansExactly : Prop where
  running : ∀ suites, suites <+: config.catalog.suites →
    (suites.map fun suite => PlanRow.ofSweep? ⟨suite, config.sweep⟩).foldlM PlanTotal.add? ⟨0, 0⟩
      = some (config.totalOf suites)
  finishes : ∀ path? overrides (state : Rehearsal.State),
    (CommandLine.loadConfig Rehearsal.machine path? overrides state).1 = .ok config →
    let shown := state.out ++ ((Plan.ofConfig config).head
      ++ PlanRow.table (config.catalog.suites.map config.rowOf))
      ++ (config.totalOf config.catalog.suites).text
    CommandLine.plan Rehearsal.machine path? overrides state
        = (.success, { state with out := shown }) ∧
      PlanReport.read? shown = some config.report ∧
      ∃ hundredths, Text.hundredths? config.report.hours.toList = some hundredths ∧
        StandsFor hundredths (config.totalOf config.catalog.suites).secs

/-! ## Rows -/

/-- A trial takes at least a second. -/
theorem trialsOf_le_secsOf (suite : Suite) : config.trialsOf suite ≤ config.secsOf suite := by
  have hpos : 0 < config.sweep.duration.secs.toNat :=
    UInt64.lt_iff_toNat_lt.mp config.sweep.duration.positive
  exact Nat.le_mul_of_pos_left _ hpos

variable {config}

/-- A suite whose seconds can be counted has its row. -/
theorem ofSweep?_of_lt {suite : Suite} (hfit : config.secsOf suite < 2 ^ 64) :
    PlanRow.ofSweep? ⟨suite, config.sweep⟩ = some (config.rowOf suite) := by
  have htrials : (Sweep.mk suite config.sweep).trials.length = config.trialsOf suite :=
    config.length_suiteTrials suite
  have hcells : (Sweep.mk suite config.sweep).cells.length
      = suite.variants.length * config.sweep.threads.length * config.sweep.ratios.length :=
    (Sweep.length_cells _).trans (Nat.mul_assoc ..).symm
  have hsecs : (Sweep.mk suite config.sweep).secsOf (config.trialsOf suite)
      = config.secsOf suite := Nat.min_eq_left (le_maxWord64_iff.mpr hfit)
  rw [PlanRow.ofSweep?_of_lt, PlanRow.ofCounts, htrials, hcells, hsecs, rowOf]
  rw [htrials]
  exact Nat.lt_of_le_of_lt (config.trialsOf_le_secsOf suite) hfit

/-! ## Totals -/

/-- As long as trials and seconds can be counted, a total is that of all its rows. -/
theorem foldlM_add? {rows : List PlanRow} {total : PlanTotal}
    (htrials : total.trials + (rows.map (·.trials)).sum < 2 ^ 64)
    (hsecs : total.secs + (rows.map (·.secs)).sum < 2 ^ 64) :
    (rows.map some).foldlM PlanTotal.add? total
      = some ⟨total.trials + (rows.map (·.trials)).sum,
          total.secs + (rows.map (·.secs)).sum⟩ := by
  induction rows generalizing total with
  | nil => rfl
  | cons row rows ih =>
      rw [List.map_cons, List.sum_cons, ← Nat.add_assoc] at htrials hsecs
      have hstep : total.add? (some row)
          = some ⟨total.trials + row.trials, total.secs + row.secs⟩ := by
        show (do return PlanTotal.mk (← word64? _) (← word64? _)) = _
        rw [word64?_of_lt (Nat.lt_of_le_of_lt (Nat.le_add_right _ _) htrials),
          word64?_of_lt (Nat.lt_of_le_of_lt (Nat.le_add_right _ _) hsecs)]
        rfl
      rw [List.map_cons, List.foldlM_cons, hstep]
      simp only [List.map_cons, List.sum_cons, ← Nat.add_assoc]
      exact ih htrials hsecs

/-- If all seconds together can be counted, so can those of each suite, and the rows add
    up to what the suites ask for. -/
theorem foldlM_ofSweep? {suites : List Suite} (hfit : (suites.map config.secsOf).sum < 2 ^ 64) :
    (suites.map fun suite => PlanRow.ofSweep? ⟨suite, config.sweep⟩)
        = (suites.map config.rowOf).map some ∧
      ((suites.map config.rowOf).map some).foldlM PlanTotal.add? ⟨0, 0⟩
        = some (config.totalOf suites) := by
  constructor
  · rw [List.map_map]
    refine List.map_congr_left fun suite hsuite => ?_
    have hle : config.secsOf suite ≤ (suites.map config.secsOf).sum :=
      List.le_sum_of_mem (List.mem_map_of_mem hsuite)
    exact ofSweep?_of_lt (Nat.lt_of_le_of_lt hle hfit)
  · have htrials : (suites.map config.rowOf).map (·.trials) = suites.map config.trialsOf :=
      List.map_map
    have hsecs : (suites.map config.rowOf).map (·.secs) = suites.map config.secsOf :=
      List.map_map
    have hle : (suites.map config.trialsOf).sum ≤ (suites.map config.secsOf).sum :=
      List.sum_le_sum fun suite _ => config.trialsOf_le_secsOf suite
    rw [foldlM_add?, htrials, hsecs, Nat.zero_add, Nat.zero_add, totalOf]
    · rw [htrials, Nat.zero_add]
      exact Nat.lt_of_le_of_lt hle hfit
    · rw [hsecs, Nat.zero_add]
      exact hfit

/-- A total that there is has room for all rows. -/
theorem fitting_of_foldlM {rows : List PlanRow} {total total' : PlanTotal}
    (h : (rows.map some).foldlM PlanTotal.add? total = some total') :
    total.fitting (rows.map some) = rows := by
  induction rows generalizing total with
  | nil => rfl
  | cons row rows ih =>
      obtain ⟨next, hnext, hrest⟩ := Option.bind_eq_some_iff.mp h
      rw [List.map_cons, PlanTotal.fitting, hnext]
      exact congrArg (row :: ·) (ih hrest)

/-- A total that there is can be counted. -/
theorem secs_lt_of_foldlM {rows : List (Option PlanRow)} {total total' : PlanTotal}
    (hlt : total.secs < 2 ^ 64) (h : rows.foldlM PlanTotal.add? total = some total') :
    total'.secs < 2 ^ 64 := by
  induction rows generalizing total with
  | nil =>
      obtain rfl := Option.some.inj h
      exact hlt
  | cons row? rows ih =>
      obtain ⟨next, hnext, hrest⟩ := Option.bind_eq_some_iff.mp h
      obtain ⟨row, -, hnext⟩ := Option.bind_eq_some_iff.mp hnext
      obtain ⟨trials, -, hnext⟩ := Option.bind_eq_some_iff.mp hnext
      obtain ⟨secs, hsecs, hnext⟩ := Option.bind_eq_some_iff.mp hnext
      obtain ⟨hword, rfl⟩ := word64?_eq_some_iff.mp hsecs
      obtain rfl := Option.some.inj hnext
      exact ih hword hrest

/-! ## The command -/

/-- Loading a configuration changes nothing. -/
theorem loadConfig_state (path? : Option String) (overrides : Overrides)
    (state : Rehearsal.State) :
    (CommandLine.loadConfig Rehearsal.machine path? overrides state).2 = state := by
  cases path? with
  | none => rfl
  | some path => rfl

/-- A plan is shown, and its total behind it if there is one. -/
theorem plan_loaded {path? : Option String} {overrides : Overrides} {state : Rehearsal.State}
    (hload : (CommandLine.loadConfig Rehearsal.machine path? overrides state).1 = .ok config) :
    CommandLine.plan Rehearsal.machine path? overrides state
      = let shown := state.out ++ ((Plan.ofConfig config).head ++ (Plan.ofConfig config).table)
        match (Plan.ofConfig config).total? with
        | none       => (.overflow, { state with out := shown })
        | some total => (.success, { state with out := shown ++ total.text }) := by
  have hloaded : CommandLine.loadConfig Rehearsal.machine path? overrides state
      = (.ok config, state) := Prod.ext hload (loadConfig_state path? overrides state)
  rw [CommandLine.plan, Scenario.bind_apply, hloaded]
  dsimp only
  cases (Plan.ofConfig config).total? with
  | none => rfl
  | some total => rfl

/-- A plan whose rows can be counted, and together have a total, is shown with just these. -/
theorem plan_shown {path? : Option String} {overrides : Overrides} {state : Rehearsal.State}
    (hload : (CommandLine.loadConfig Rehearsal.machine path? overrides state).1 = .ok config)
    {rows : List PlanRow} {total : PlanTotal} (hrows : (Plan.ofConfig config).rows = rows.map some)
    (htotal : (rows.map some).foldlM PlanTotal.add? ⟨0, 0⟩ = some total) :
    CommandLine.plan Rehearsal.machine path? overrides state
      = (.success, { state with
          out := state.out ++ ((Plan.ofConfig config).head ++ PlanRow.table rows)
            ++ total.text }) := by
  have htable : (Plan.ofConfig config).table = PlanRow.table rows := by
    rw [Plan.table, hrows, fitting_of_foldlM htotal]
  have htotal? : (Plan.ofConfig config).total? = some total := by
    rw [Plan.total?, hrows, htotal]
  rw [plan_loaded hload, htotal?, htable]

/-- A plan whose seconds can be counted is exact. -/
theorem plansExactly_of_lt (hfit : (config.totalOf config.catalog.suites).secs < 2 ^ 64) :
    config.PlansExactly := by
  have hfits : ∀ suites, suites <+: config.catalog.suites →
      (suites.map config.secsOf).sum < 2 ^ 64 := by
    rintro suites ⟨rest, hsuites⟩
    refine Nat.lt_of_le_of_lt ?_ hfit
    show _ ≤ (config.catalog.suites.map config.secsOf).sum
    rw [← hsuites, List.map_append, List.sum_append]
    exact Nat.le_add_right _ _
  refine ⟨?_, ?_⟩
  · intro suites hsuites
    obtain ⟨hrows, htotal⟩ := foldlM_ofSweep? (hfits suites hsuites)
    rw [hrows, htotal]
  · intro path? overrides state hload shown
    obtain ⟨hrows, htotal⟩ := foldlM_ofSweep? (hfits _ List.prefix_rfl)
    refine ⟨plan_shown hload hrows htotal, ?_, exists_hoursText hfit⟩
    rw [PlanReport.read?_plan, List.map_map]
    rfl

end Config

/-- **A PLAN IS EXACT**, and shown with success, exactly if the seconds that all
    suites take together are a 64-bit word. -/
theorem plansExactly_iff (config : Config) :
    config.PlansExactly ↔
      (config.catalog.suites.map fun s => config.sweep.duration.secs.toNat
        * (s.variants.length * config.sweep.threads.length * config.sweep.ratios.length
          * config.sweep.runs.val.toNat)).sum < 2 ^ 64 := by
  constructor
  · intro hexact
    exact Config.secs_lt_of_foldlM (Nat.two_pow_pos 64) (hexact.running _ List.prefix_rfl)
  · exact Config.plansExactly_of_lt

/-! ## A plan without a total -/

/-- Trials of a week, as many repetitions as there can be, and the ratios up to 47
    permil. -/
def longOverrides : Overrides :=
  { durationSecs? := some 604800
    runs? := some 4294967295
    ratios? := some ((List.range 48).map UInt32.ofNat) }

/-- The configuration that these settings make of the defaults. -/
def longConfig : Config := (Settings.validate {} longOverrides).toOption.get rfl

/-- The seconds of each suite can be counted, those of all three cannot: the plan is
    shown, and ends in an overflow where its total would be. -/
theorem long_overflows :
    Settings.defaults longOverrides = .ok longConfig ∧
    (∀ suite ∈ longConfig.catalog.suites,
      PlanRow.ofSweep? ⟨suite, longConfig.sweep⟩ = some (longConfig.rowOf suite)) ∧
    (Plan.ofConfig longConfig).total? = none ∧
    (CommandLine.plan Rehearsal.machine none longOverrides {}).1 = .overflow ∧
    ¬ longConfig.PlansExactly := by
  have hload : Settings.defaults longOverrides = .ok longConfig := rfl
  have hrows : ∀ suite ∈ longConfig.catalog.suites,
      PlanRow.ofSweep? ⟨suite, longConfig.sweep⟩ = some (longConfig.rowOf suite) := by
    decide +kernel
  have htotal : (Plan.ofConfig longConfig).total? = none := by decide +kernel
  have hexit : (CommandLine.plan Rehearsal.machine none longOverrides {}).1 = .overflow := by
    have hloaded : (CommandLine.loadConfig Rehearsal.machine none longOverrides {}).1
        = .ok longConfig := hload
    rw [Config.plan_loaded hloaded, htotal]
  refine ⟨hload, hrows, htotal, hexit, ?_⟩
  intro hexact
  have hsome : (Plan.ofConfig longConfig).total? = _ := hexact.running _ List.prefix_rfl
  exact nomatch hsome.symm.trans htotal

end BenchSweep
