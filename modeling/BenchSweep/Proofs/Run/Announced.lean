import BenchSweep.Proofs.Plan
import BenchSweep.Proofs.Run.Selection

/-! # What a plan announces

    A plan is made by multiplication, before anything has run.  A run walks along the
    trials, and its aggregator decides by itself when a configuration is complete.  If
    the trials and the seconds of all suites can be counted, the figures that are read
    off a plan are those of a run that nothing cuts short, whatever its trials have for
    outcomes (`plan_announces_run`). -/

namespace BenchSweep

/-! ## Where configurations come from -/

namespace Settings

/-- A text is loaded by checking the settings that it makes. -/
theorem load_eq_ok_iff {text : String} {overrides : Overrides} {config : Config} :
    load text overrides = .ok config ↔
      ∃ raw, parse text = .ok raw ∧ validate raw overrides = .ok config := by
  rw [load, bind_eq_ok_iff]
  simp only [mapError_eq_ok_iff]

/-- What comes from a file or from the defaults has been checked. -/
theorem exists_raw_of_loadConfig {path? : Option String} {overrides : Overrides}
    {state : Rehearsal.State} {config : Config}
    (hload : (CommandLine.loadConfig Rehearsal.machine path? overrides state).1 = .ok config) :
    ∃ raw, validate raw overrides = .ok config := by
  cases path? with
  | none => exact ⟨{}, mapError_eq_ok_iff.mp hload⟩
  | some path =>
      obtain ⟨contents, hfile⟩ : ∃ contents, loadFile path contents overrides = .ok config :=
        ⟨_, hload⟩
      cases contents with
      | absent => exact nomatch hfile
      | unreadable reason => exact nomatch hfile
      | bytes content =>
          rw [loadFile] at hfile
          split at hfile
          · exact nomatch hfile
          · next text htext =>
              obtain ⟨raw, -, hraw⟩ := load_eq_ok_iff.mp hfile
              exact ⟨raw, hraw⟩

end Settings

/-! ## Counting what belongs to a suite -/

/-- Where no two entries have the same key, a key is that of one entry. -/
theorem filter_key_eq_singleton {α κ : Type} [DecidableEq κ] {key : α → κ} {xs : List α}
    (hnodup : (xs.map key).Nodup) {x : α} (hx : x ∈ xs) :
    xs.filter (fun y => key y = key x) = [x] := by
  induction xs with
  | nil => exact nomatch hx
  | cons y ys ih =>
      obtain ⟨hfresh, hnodup⟩ := List.nodup_cons.mp hnodup
      rw [List.filter_cons]
      rcases List.mem_cons.mp hx with rfl | hys
      · have hrest : ys.filter (fun y => key y = key x) = [] := by
          refine List.filter_eq_nil_iff.mpr ?_
          intro z hz heq
          exact hfresh (List.mem_map.mpr ⟨z, hz, of_decide_eq_true heq⟩)
        rw [if_pos (decide_eq_true rfl), hrest]
      · have hne : ¬ key y = key x := fun heq => hfresh (heq ▸ List.mem_map_of_mem hys)
        rw [if_neg (fun heq => hne (of_decide_eq_true heq))]
        exact ih hnodup hys

/-- If moreover what comes of an entry can be traced back to it, just what comes of an
    entry has its key. -/
theorem countP_flatMap_of_tag {α β κ : Type} [DecidableEq κ] {f : α → List β} (tag : β → κ)
    (key : α → κ) {xs : List α} (htag : ∀ x ∈ xs, ∀ y ∈ f x, tag y = key x)
    (hnodup : (xs.map key).Nodup) {x : α} (hx : x ∈ xs) :
    (xs.flatMap f).countP (fun y => tag y = key x) = (f x).length := by
  have hfilter := filter_flatMap_of_tag tag key (fun k => decide (k = key x)) htag
  rw [List.countP_eq_length_filter, hfilter, filter_key_eq_singleton hnodup hx,
    List.flatMap_singleton]

/-- What a history has to show for a sweep. -/
def PlanRow.ofHistory (h : History) (sweep : Sweep) : PlanRow :=
  .ofCounts sweep ((publishedIn h).countP (·.key.suite = sweep.suite.name))
    ((completedIn h).countP (·.suite.name = sweep.suite.name))

namespace Config

variable {config : Config} {sc : Scenario}

/-- A run that goes through has completed the trials of every suite, and published its
    cells. -/
theorem Sound.ofHistory_eq (hsound : config.Sound) (hfit : config.Fits) (hquiet : sc.Quiet)
    (haccepts : sc.Accepts) {suite : Suite} (hsuite : suite ∈ config.catalog.suites) :
    let sweep : Sweep := ⟨suite, config.sweep⟩
    PlanRow.ofHistory (sc.run config).2 sweep
      = .ofCounts sweep sweep.cells.length sweep.trials.length := by
  intro sweep
  have hnodup := hsound.catalog.nodup_names
  obtain ⟨hcompleted, hpublished, -⟩ := Scenario.run_leaves hfit hquiet haccepts
  have htrials : (completedIn (sc.run config).2).countP (fun t => t.suite.name = suite.name)
      = sweep.trials.length := by
    rw [hcompleted, trials, sweeps, List.flatMap_map]
    refine countP_flatMap_of_tag (fun t : Trial => t.suite.name) Suite.name ?_ hnodup hsuite
    intro s _ t ht
    exact congrArg Suite.name (Sweep.suite_of_mem_trials ht)
  have haggregates : (publishedIn (sc.run config).2).countP (fun a => a.key.suite = suite.name)
      = sweep.cells.length := by
    rw [hpublished, List.countP_map, cells, sweeps, List.flatMap_map]
    refine countP_flatMap_of_tag (fun c : Cell => c.suite.name) Suite.name ?_ hnodup hsuite
    intro s _ c hc
    exact congrArg Suite.name (Sweep.suite_of_mem_cells hc)
  rw [PlanRow.ofHistory, haggregates, htrials]

end Config

/-- **A PLAN ANNOUNCES WHAT A RUN DOES**: if the trials of all suites and their seconds can
    be counted, a loaded configuration is planned with success, and what is read off the
    plan is what any run of it does that nothing cuts short: for every suite the number
    of trials completed and of aggregates published, and in total the trials of the
    summary. -/
theorem plan_announces_run {path? : Option String} {overrides : Overrides}
    {state : Rehearsal.State} {config : Config}
    (hload : (CommandLine.loadConfig Rehearsal.machine path? overrides state).1 = .ok config)
    (hfit : config.Fits)
    (htime : (config.catalog.suites.map fun s => min (config.secsOf s) maxWord64).sum < 2 ^ 64)
    {sc : Scenario} (hquiet : sc.Quiet) (haccepts : sc.Accepts) :
    let ran := (sc.run config).2
    let rows := config.sweeps.map (PlanRow.ofHistory ran)
    ∃ s out, (sc.run config).1 = .ok s ∧
      (Plan.ofConfig config).rows = rows.map some ∧
      s.trials = (rows.map (·.trials)).sum ∧
      CommandLine.plan Rehearsal.machine path? overrides state
        = (.success, { state with out := out }) ∧
      out = state.out ++ ((Plan.ofConfig config).head ++ PlanRow.table rows)
        ++ PlanTotal.text ⟨s.trials, (rows.map (·.secs)).sum⟩ ∧
      PlanReport.read? out = some
        { lines := config.sweeps.map fun sweep =>
            { suite := sweep.suite.name.text
              variants := sweep.suite.variants.length
              configurations := (publishedIn ran).countP (·.key.suite = sweep.suite.name)
              trials := (completedIn ran).countP (·.suite.name = sweep.suite.name)
              hours := hoursText (PlanRow.ofHistory ran sweep).secs }
          trials := s.trials
          hours := hoursText (rows.map (·.secs)).sum } := by
  intro ran rows
  obtain ⟨raw, hraw⟩ := Settings.exists_raw_of_loadConfig hload
  have hsound := Settings.validate_sound hraw
  obtain ⟨-, -, hsummary⟩ := Scenario.run_leaves hfit hquiet haccepts
  have hcounts : ∀ sweep ∈ config.sweeps, PlanRow.ofHistory ran sweep
      = .ofCounts sweep sweep.cells.length sweep.trials.length :=
    List.forall_mem_map.mpr fun suite hsuite =>
      hsound.ofHistory_eq hfit hquiet haccepts hsuite
  have hrows : (Plan.ofConfig config).rows = rows.map some := by
    have hplan : (Plan.ofConfig config).rows = config.sweeps.map PlanRow.ofSweep? := by
      rw [Config.sweeps, List.map_map]
      rfl
    rw [hplan, List.map_map]
    refine List.map_congr_left fun sweep hsweep => ?_
    obtain ⟨suite, hsuite, rfl⟩ := List.mem_map.mp hsweep
    rw [PlanRow.ofSweep?_of_lt (hfit.sweep hsuite), ← hcounts _ hsweep]
    rfl
  have htrials : (rows.map (·.trials)).sum = config.trials.length := by
    rw [List.map_map, Config.trials, List.length_flatMap]
    refine congrArg List.sum (List.map_congr_left fun sweep hsweep => ?_)
    exact congrArg PlanRow.trials (hcounts sweep hsweep)
  have hsecs : (rows.map (·.secs)).sum
      = (config.catalog.suites.map fun s => min (config.secsOf s) maxWord64).sum := by
    rw [List.map_map, Config.sweeps, List.map_map]
    refine congrArg List.sum (List.map_congr_left fun suite hsuite => ?_)
    have hsecs := congrArg PlanRow.secs (hcounts _ (List.mem_map_of_mem hsuite))
    rw [PlanRow.ofCounts, config.length_suiteTrials] at hsecs
    exact hsecs
  have htotal : (rows.map some).foldlM PlanTotal.add? ⟨0, 0⟩
      = some ⟨config.trials.length, (rows.map (·.secs)).sum⟩ := by
    rw [Config.foldlM_add?, htrials, Nat.zero_add, Nat.zero_add]
    · rw [htrials, Nat.zero_add]
      exact config.fits_iff.mp hfit
    · rw [hsecs, Nat.zero_add]
      exact htime
  have hcount : (Summary.of (sc.outcomes config.trials)
      (config.cells.map (sc.aggregate config))).trials = config.trials.length := List.length_map ..
  refine ⟨_, _, hsummary, hrows, hcount.trans htrials.symm,
    Config.plan_shown hload hrows htotal, ?_, ?_⟩
  · rw [← hcount]
    rfl
  · rw [PlanReport.read?_plan, List.map_map, ← hcount]
    rfl

/-- The plan of the skip lists shows four trials in two configurations, and the run of
    which half of the trials fail has as many. -/
theorem plan_announces_skiplists :
    (CommandLine.loadConfig Rehearsal.machine none skiplistOverrides {}).1 = .ok skiplistConfig ∧
    skiplistConfig.Fits ∧
    (skiplistConfig.catalog.suites.map
      fun s => min (skiplistConfig.secsOf s) maxWord64).sum < 2 ^ 64 ∧
    skiplistScenario.Quiet ∧ skiplistScenario.Accepts ∧
    ∃ out, CommandLine.plan Rehearsal.machine none skiplistOverrides {}
        = (.success, { out := out }) ∧
      PlanReport.read? out = some
        { lines := [{ suite := "set-skiplist-1m", variants := 2, configurations := 2,
                      trials := 4, hours := "0.02" }]
          trials := 4
          hours := "0.02" } := by
  have hload : (CommandLine.loadConfig Rehearsal.machine none skiplistOverrides {}).1
      = .ok skiplistConfig := rfl
  have htime : (skiplistConfig.catalog.suites.map
      fun s => min (skiplistConfig.secsOf s) maxWord64).sum < 2 ^ 64 := by decide
  have hquiet : skiplistScenario.Quiet := fun _ => rfl
  have haccepts : skiplistScenario.Accepts := ⟨rfl, fun _ _ => rfl⟩
  obtain ⟨s, out, hrun, -, -, hplan, -, hread⟩ :=
    plan_announces_run hload skiplistConfig_fits htime hquiet haccepts
  obtain ⟨hcompleted, hpublished, hsummary⟩ :=
    Scenario.run_leaves skiplistConfig_fits hquiet haccepts
  obtain rfl := Except.ok.inj (hrun.symm.trans hsummary)
  refine ⟨hload, skiplistConfig_fits, htime, hquiet, haccepts, out, hplan, hread.trans ?_⟩
  simp only [List.map_map, Function.comp_def, PlanRow.ofHistory, hcompleted, hpublished]
  decide +kernel

end BenchSweep
