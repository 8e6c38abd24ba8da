import BenchSweep.Proofs.Run.Course
import BenchSweep.Proofs.Settings.Accepted

/-! # Runs that go through

    Without an interrupt, and with a sink that takes everything, nothing cuts a
    run short whose trials can be counted: it completes every cell, whatever becomes
    of trials and captures (`Scenario.run_complete`).  For an accepted configuration that means one
    aggregate for each combination of suite, variant, thread count and ratio. -/

namespace BenchSweep

namespace Scenario

variable {sc : Scenario} {config : Config}

/-- Only an interrupt, a refusal or trials that cannot be counted cut a run short. -/
theorem not_cutShort (hfit : config.Fits) (hquiet : sc.Quiet) (haccepts : sc.Accepts) {cut : Cut}
    {h : History} : ¬ sc.CutShort config cut h := by
  intro hcut
  cases hcut with
  | interrupted hcells hn hlast hfired => exact nomatch (hquiet _).symm.trans hfired
  | refused hcells hrefused => exact nomatch (haccepts.record _ _).symm.trans hrefused
  | overflow hcells hn hlast hover => exact hover hfit

/-- A run that nothing disturbs completes all cells. -/
theorem run_complete (hfit : config.Fits) (hquiet : sc.Quiet) (haccepts : sc.Accepts) :
    sc.run config
      = (.ok (sc.progress config config.cells []).summary, sc.history config config.cells []) := by
  obtain ⟨-, ⟨-, hrun⟩ | ⟨cut, hcut, -⟩⟩ := run_course config haccepts.header
  · exact hrun
  · exact absurd hcut (not_cutShort hfit hquiet haccepts)

/-- If all trials cannot be counted, no run gets through without an interrupt. -/
theorem fits_of_run {s : Summary} (hquiet : sc.Quiet) (hrun : (sc.run config).1 = .ok s) :
    config.Fits := by
  cases hheader : sc.headerFault? with
  | some fault =>
      rw [run_refused hheader] at hrun
      cases hrun
  | none =>
      obtain ⟨-, ⟨hfit, -⟩ | ⟨cut, hcut, hanswer⟩⟩ := run_course config hheader
      · exact hfit
      · rw [hanswer] at hrun
        generalize (sc.run config).2 = h at hcut
        cases hcut with
        | interrupted hcells hn hlast hfired => exact nomatch (hquiet _).symm.trans hfired
        | refused hcells hrefused => cases hrun
        | overflow hcells hn hlast hover => cases hrun

end Scenario

namespace Config

variable {config : Config}

/-- The cells of a sound configuration have different keys. -/
theorem Sound.nodup_keys (h : config.Sound) : (config.cells.map Cell.key).Nodup := by
  rw [cells, sweeps, List.flatMap_map, List.map_flatMap]
  refine nodup_flatMap_of_tag Key.suite Suite.name ?_ h.catalog.nodup_names ?_
  · intro s _ κ hκ
    obtain ⟨c, hc, rfl⟩ := List.mem_map.mp hκ
    exact congrArg Suite.name (Sweep.suite_of_mem_cells hc)
  · intro s hs
    exact Sweep.nodup_keys _ (h.catalog.nodup_variants s hs) h.nodup_threads h.nodup_ratios

/-- A sound configuration needs as many successes as it says. -/
theorem Sound.required_eq (h : config.Sound) :
    config.required = config.runner.minSuccesses.toNat :=
  Nat.max_eq_left h.minSuccesses_pos

end Config

/-- **A RUN THAT GOES THROUGH** hands the sink the header, and then, right after
    the last trial of each cell, the aggregate of just the trials of that cell;
    the cells come in the order of the catalog and of the settings, and no two of
    them have the same key.  Whether captures are made, and which of them fail,
    makes no difference to that. -/
theorem run_publishes_each_cell {raw : RawConfig} {overrides : Overrides} {config : Config}
    (hconfig : Settings.validate raw overrides = .ok config) (hfit : config.Fits)
    {sc : Scenario} (hquiet : sc.Quiet) (haccepts : sc.Accepts) :
    let suites := config.catalog.suites
    let dims := config.sweep
    let N := dims.runs.val.toNat
    let outcomes (c : Cell) := (c.trials dims.runs).map sc.outcome
    sc.run config
      = (.ok
          { trials := (suites.map fun s =>
              s.variants.length * dims.threads.length * dims.ratios.length * N).sum
            failedTrials := (failuresOf (config.trials.map sc.outcome)).length
            aggregates := (suites.map fun s =>
              s.variants.length * dims.threads.length * dims.ratios.length).sum
            failedAggregates := config.cells.countP fun c => (sc.aggregate config c).isFailed
            discarded := 0
            interrupted := false },
        .header dims (suites.map (·.name)) true :: config.cells.flatMap fun c =>
          (c.trials dims.runs).flatMap sc.deeds ++ [.record (sc.aggregate config c) true]) ∧
    config.cells = (suites.flatMap fun s => s.variants.flatMap fun v =>
      dims.threads.flatMap fun t => dims.ratios.map fun r => ⟨s, v, t, r⟩) ∧
    config.trials = config.cells.flatMap (·.trials dims.runs) ∧
    (config.cells.map Cell.key).Nodup ∧
    ∀ c ∈ config.cells,
      (sc.aggregate config c).key = c.key ∧
      (sc.aggregate config c).runs = N ∧
      (sc.aggregate config c).successes = (figuresOf (outcomes c)).length ∧
      (sc.aggregate config c).failures = failuresOf (outcomes c) ∧
      ((∃ stats, Statistics.ofSamples? (figuresOf (outcomes c)) = some stats ∧
          (sc.aggregate config c).measurement = .median stats) ↔
        config.runner.minSuccesses.toNat ≤ (figuresOf (outcomes c)).length) ∧
      ((sc.aggregate config c).measurement = .failed ↔
        (figuresOf (outcomes c)).length < config.runner.minSuccesses.toNat) := by
  intro suites dims N outcomes
  have hsound := Settings.validate_sound hconfig
  have hsummary : (sc.progress config config.cells []).summary
      = { trials := (suites.map fun s =>
            s.variants.length * dims.threads.length * dims.ratios.length * N).sum
          failedTrials := (failuresOf (config.trials.map sc.outcome)).length
          aggregates := (suites.map fun s =>
            s.variants.length * dims.threads.length * dims.ratios.length).sum
          failedAggregates := config.cells.countP fun c => (sc.aggregate config c).isFailed
          discarded := 0
          interrupted := false } := by
    have htrials : config.cells.flatMap (·.trials config.sweep.runs) ++ [] = config.trials := by
      rw [List.append_nil, config.trials_eq_cells]
    rw [Scenario.progress, htrials]
    show Summary.mk _ _ _ _ 0 false = Summary.mk _ _ _ _ 0 false
    congr 1
    · rw [Scenario.outcomes, List.length_map]
      exact config.length_trials
    · rw [List.length_map]
      exact config.length_cells
    · rw [List.countP_map]
      rfl
  have hhistory : sc.history config config.cells []
      = .header dims (suites.map (·.name)) true :: config.cells.flatMap fun c =>
          (c.trials dims.runs).flatMap sc.deeds ++ [.record (sc.aggregate config c) true] := by
    rw [Scenario.history, List.flatMap_nil, List.append_nil]
    rfl
  refine ⟨?_, config.cells_eq_product, config.trials_eq_cells, hsound.nodup_keys, ?_⟩
  · rw [Scenario.run_complete hfit hquiet haccepts, hsummary, hhistory]
  · intro c _
    refine ⟨rfl, rfl, rfl, rfl, ?_⟩
    have hmin := hsound.minSuccesses_pos
    rw [Scenario.aggregate, hsound.required_eq]
    exact ⟨Aggregate.measurement_eq_median_iff hmin, Aggregate.measurement_eq_failed_iff hmin⟩

/-- Settings for a quick check of the built-in skip lists. -/
def skiplistOverrides : Overrides :=
  { runs? := some 2
    threads? := some [4]
    ratios? := some [100]
    suites := ["set-skiplist-1m"] }

/-- The configuration that these settings make. -/
def skiplistConfig : Config :=
  (Settings.validate {} skiplistOverrides).toOption.get rfl

theorem skiplistConfig_fits : skiplistConfig.Fits := by
  rw [Config.Fits]
  decide +kernel

/-- One of the two skip lists always finds seven operations a second; the other
    one cannot be launched. -/
def skiplistEnding (t : Trial) : Ending :=
  if t.variant.name.text = "hsskip-orc" then .notLaunched "bin: Permission denied"
  else .exited "Ops/sec = 7".toUTF8.toList (.code 0)

/-- The scenario of these endings, with nothing else in the way and with captures
    that all fail. -/
def skiplistScenario : Scenario :=
  { ending := skiplistEnding
    finishes := by
      intro t
      rw [skiplistEnding]
      split
      · exact fun h => nomatch h
      · exact fun h => nomatch h
    fired := fun _ => false
    stays := fun _ _ h => h
    strikes := fun _ _ => false
    struck := fun _ _ h => h
    headerFault? := none
    recordFault? := fun _ _ => none
    captureDir? := some "raw"
    captureFault? := fun _ _ => some "No space left on device" }

/-- Four trials of which two fail, and two aggregates of which one has failed. -/
theorem run_skiplists :
    Settings.validate {} skiplistOverrides = .ok skiplistConfig ∧
    skiplistConfig.Fits ∧ skiplistScenario.Quiet ∧ skiplistScenario.Accepts ∧
    (skiplistScenario.run skiplistConfig).1
      = .ok { trials := 4, failedTrials := 2, aggregates := 2, failedAggregates := 1 } := by
  have hconfig : Settings.validate {} skiplistOverrides = .ok skiplistConfig := rfl
  have hfit := skiplistConfig_fits
  have hquiet : skiplistScenario.Quiet := fun _ => rfl
  have haccepts : skiplistScenario.Accepts := ⟨rfl, fun _ _ => rfl⟩
  obtain ⟨hrun, -⟩ := run_publishes_each_cell hconfig hfit hquiet haccepts
  have hfailed : (fun c => (skiplistScenario.aggregate skiplistConfig c).isFailed)
      = fun c : Cell => decide ((figuresOf ((c.trials skiplistConfig.sweep.runs).map
          skiplistScenario.outcome)).length < 1) :=
    funext fun c => Aggregate.isFailed_ofOutcomes (Nat.le_refl 1)
  refine ⟨hconfig, hfit, hquiet, haccepts, ?_⟩
  rw [hrun, hfailed]
  decide +kernel

end BenchSweep
