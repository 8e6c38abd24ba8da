import BenchSweep.Proofs.Run.Overflow

/-! # Runs of selected suites

    A request for some suites takes the others out of the catalog and leaves all else
    as it is (`Settings.validate_select`).  No suite leaves anything behind for the
    next one, so the run of the selection is the part of the whole run that concerns
    the selected suites: the same trials, the same aggregates in the same order, and
    the counts of just these (`Config.RunsPart`).  That holds of settings exactly if the
    trials of all suites together can be counted (`selection_is_part_iff_fits`): otherwise
    the whole run breaks off, and a selection may go through. -/

namespace BenchSweep

/-- The same configuration with the named suites alone. -/
def Config.select (config : Config) (names : List String) : Config :=
  { config with catalog := ⟨config.catalog.suites.filter fun s => s.name.text ∈ names⟩ }

/-- Settings that are accepted without a request for suites are accepted with a request
    for any of these, and the others are left out. -/
theorem Settings.validate_select {raw : RawConfig} {overrides : Overrides} {config : Config}
    (hall : overrides.suites = []) (hconfig : validate raw overrides = .ok config)
    {names : List String} (hne : names ≠ [])
    (hnames : ∀ name ∈ names, name ∈ config.catalog.suites.map (·.name.text)) :
    validate raw { overrides with suites := names } = .ok (config.select names) := by
  obtain ⟨hsweep, hrunner, catalog, hcatalog, hselected⟩ := (validate_eq_ok_iff ..).mp hconfig
  rw [hall] at hselected
  obtain rfl : catalog = config.catalog := Except.ok.inj hselected
  refine (validate_eq_ok_iff ..).mpr ⟨hsweep, hrunner, _, hcatalog, ?_⟩
  refine (selectSuites_eq_ok_iff ..).mpr ⟨hnames, ?_⟩
  simp only [Config.select, hne, false_or]

/-! ## Filtering what comes of suites -/

/-- If what comes of an entry can be traced back to it, filtering what comes of all
    entries leaves what comes of the filtered ones. -/
theorem filter_flatMap_of_tag {α β κ : Type} {f : α → List β} (tag : β → κ) (key : α → κ)
    (p : κ → Bool) {xs : List α} (htag : ∀ x ∈ xs, ∀ y ∈ f x, tag y = key x) :
    (xs.flatMap f).filter (fun y => p (tag y)) = (xs.filter fun x => p (key x)).flatMap f := by
  induction xs with
  | nil => rfl
  | cons x xs ih =>
      obtain ⟨hx, hxs⟩ := List.forall_mem_cons.mp htag
      rw [List.flatMap_cons, List.filter_append, ih hxs]
      cases hp : p (key x) with
      | true =>
          have hkeep : (f x).filter (fun y => p (tag y)) = f x :=
            List.filter_eq_self.mpr fun y hy => by rw [hx y hy, hp]
          rw [hkeep, List.filter_cons_of_pos (p := fun x => p (key x)) hp, List.flatMap_cons]
      | false =>
          have hdrop : (f x).filter (fun y => p (tag y)) = [] :=
            List.filter_eq_nil_iff.mpr fun y hy => by simp [hx y hy, hp]
          have hx : ¬p (key x) = true := by simp [hp]
          rw [hdrop, List.nil_append, List.filter_cons_of_neg (p := fun x => p (key x)) hx]

namespace Config

variable (config : Config) (names : List String)

/-- The trials of the selected suites. -/
theorem trials_select :
    (config.select names).trials = config.trials.filter fun t => t.suite.name.text ∈ names := by
  rw [trials, trials, sweeps, sweeps, List.flatMap_map, List.flatMap_map]
  refine (filter_flatMap_of_tag (fun t : Trial => t.suite.name) Suite.name
    (fun name => decide (name.text ∈ names)) ?_).symm
  exact fun suite _ t ht => congrArg Suite.name (Sweep.suite_of_mem_trials ht)

/-- The cells of the selected suites. -/
theorem cells_select :
    (config.select names).cells = config.cells.filter fun c => c.suite.name.text ∈ names := by
  rw [cells, cells, sweeps, sweeps, List.flatMap_map, List.flatMap_map]
  refine (filter_flatMap_of_tag (fun c : Cell => c.suite.name) Suite.name
    (fun name => decide (name.text ∈ names)) ?_).symm
  exact fun suite _ c hc => congrArg Suite.name (Sweep.suite_of_mem_cells hc)

variable {config}

/-- If all trials can be counted, so can those of the selected suites. -/
theorem Fits.select (hfit : config.Fits) : (config.select names).Fits := by
  rw [fits_iff, trials_select]
  exact Nat.lt_of_le_of_lt (List.length_filter_le ..) (config.fits_iff.mp hfit)

end Config

namespace Scenario

variable {sc sc' : Scenario} {config : Config} {names : List String}

/-- A run that nothing disturbs, and what it leaves. -/
theorem run_leaves (hfit : config.Fits) (hquiet : sc.Quiet) (haccepts : sc.Accepts) :
    completedIn (sc.run config).2 = config.trials ∧
    publishedIn (sc.run config).2 = config.cells.map (sc.aggregate config) ∧
    (sc.run config).1
      = .ok (.of (config.trials.map sc.outcome) (config.cells.map (sc.aggregate config))) := by
  have htrials : config.cells.flatMap (·.trials config.sweep.runs) ++ [] = config.trials := by
    rw [List.append_nil, config.trials_eq_cells]
  rw [run_complete hfit hquiet haccepts, completedIn_history, publishedIn_history, progress, htrials]
  exact ⟨rfl, rfl, rfl⟩

/-- The same outcomes make the same aggregates. -/
theorem aggregates_select
    (hsame : ∀ t ∈ (config.select names).trials, sc'.outcome t = sc.outcome t) :
    (config.select names).cells.map (sc'.aggregate (config.select names))
      = (config.cells.map (sc.aggregate config)).filter fun a => a.key.suite.text ∈ names := by
  have hcells : config.cells.filter ((fun a => decide (a.key.suite.text ∈ names))
      ∘ sc.aggregate config) = (config.select names).cells := (config.cells_select names).symm
  rw [List.filter_map, hcells]
  refine List.map_congr_left fun c hc => ?_
  have houtcomes : sc'.outcomes (c.trials config.sweep.runs)
      = sc.outcomes (c.trials config.sweep.runs) := by
    refine List.map_congr_left fun t ht => hsame t ?_
    rw [Config.trials_eq_cells]
    exact List.mem_flatMap.mpr ⟨c, hc, ht⟩
  rw [aggregate, aggregate]
  exact congrArg (Aggregate.ofOutcomes c.key config.runs config.required) houtcomes

end Scenario

/-- **A SELECTION IS PART OF THE RUN**: where nothing cuts runs short and trials have the
    same outcomes, the run of the selection goes through just the trials that the whole
    run goes through for the selected suites, and publishes just the aggregates that it
    publishes for them.  Both summaries count what is published and what was run. -/
def Config.RunsPart (config : Config) (names : List String) : Prop :=
  ∀ sc sc' : Scenario, sc.Quiet → sc.Accepts → sc'.Quiet → sc'.Accepts →
    (∀ t ∈ (config.select names).trials, sc'.outcome t = sc.outcome t) →
    let whole := (sc.run config).2
    let trials := (completedIn whole).filter fun t => t.suite.name.text ∈ names
    let records := (publishedIn whole).filter fun a => a.key.suite.text ∈ names
    completedIn (sc'.run (config.select names)).2 = trials ∧
    publishedIn (sc'.run (config.select names)).2 = records ∧
    (sc'.run (config.select names)).1 = .ok
      { trials := trials.length
        failedTrials := (failuresOf (trials.map sc.outcome)).length
        aggregates := records.length
        failedAggregates := records.countP (·.isFailed)
        discarded := 0
        interrupted := false } ∧
    (sc.run config).1 = .ok
      { trials := (completedIn whole).length
        failedTrials := (failuresOf ((completedIn whole).map sc.outcome)).length
        aggregates := (publishedIn whole).length
        failedAggregates := (publishedIn whole).countP (·.isFailed)
        discarded := 0
        interrupted := false }

theorem Config.Fits.runsPart {config : Config} (hfit : config.Fits) (names : List String) :
    config.RunsPart names := by
  intro sc sc' hquiet haccepts hquiet' haccepts' hsame whole trials records
  obtain ⟨hcompleted, hpublished, hsummary⟩ := Scenario.run_leaves hfit hquiet haccepts
  obtain ⟨hcompleted', hpublished', hsummary'⟩ :=
    Scenario.run_leaves (hfit.select names) hquiet' haccepts'
  have htrials : (config.select names).trials = trials := by
    rw [config.trials_select, ← hcompleted]
  have hrecords : (config.select names).cells.map (sc'.aggregate (config.select names))
      = records := by
    rw [Scenario.aggregates_select hsame, ← hpublished]
  refine ⟨hcompleted'.trans htrials, hpublished'.trans hrecords, ?_, ?_⟩
  · have houtcomes : (config.select names).trials.map sc'.outcome = trials.map sc.outcome := by
      rw [← htrials]
      exact List.map_congr_left hsame
    rw [hsummary', houtcomes, hrecords]
    show Except.ok (Summary.mk (trials.map sc.outcome).length _ _ _ 0 false) = _
    rw [List.length_map]
  · rw [hsummary, ← hcompleted, ← hpublished]
    show Except.ok (Summary.mk ((completedIn whole).map sc.outcome).length _ _ _ 0 false) = _
    rw [List.length_map]

/-- A whole run that goes through has counted its trials. -/
theorem Config.RunsPart.fits {config : Config} {names : List String}
    (hpart : config.RunsPart names) : config.Fits := by
  have hquiet : Scenario.unlaunched.Quiet := fun _ => rfl
  have haccepts : Scenario.unlaunched.Accepts := ⟨rfl, fun _ _ => rfl⟩
  obtain ⟨-, -, -, hrun⟩ := hpart _ _ hquiet haccepts hquiet haccepts fun _ _ => rfl
  exact Scenario.fits_of_run hquiet hrun

/-- **SELECTED SUITES**: if settings are accepted, they are so with a request for any of
    their suites, and the run of these is part of the whole run exactly if the trials of
    the whole run can be counted. -/
theorem selection_is_part_iff_fits {raw : RawConfig} {overrides : Overrides} {config : Config}
    (hall : overrides.suites = []) (hconfig : Settings.validate raw overrides = .ok config)
    {names : List String} (hne : names ≠ [])
    (hnames : ∀ name ∈ names, name ∈ config.catalog.suites.map (·.name.text)) :
    Settings.validate raw { overrides with suites := names } = .ok (config.select names) ∧
      (config.RunsPart names ↔ config.Fits) :=
  ⟨Settings.validate_select hall hconfig hne hnames, fun hpart => hpart.fits,
    fun hfit => hfit.runsPart names⟩

/-- The settings of `skiplistConfig` for the whole built-in catalog. -/
def quickConfig : Config :=
  (Settings.validate {} { skiplistOverrides with suites := [] }).toOption.get rfl

/-- Of the three built-in suites the skip lists and the lists are asked for, the former
    twice: two and eight variants with two runs each, of which the two of one skip list
    fail. -/
theorem selection_of_skiplists :
    let names := ["set-skiplist-1m", "set-ll-1k", "set-skiplist-1m"]
    let overrides := { skiplistOverrides with suites := [] }
    overrides.suites = [] ∧ Settings.validate {} overrides = .ok quickConfig ∧ names ≠ [] ∧
    (∀ name ∈ names, name ∈ quickConfig.catalog.suites.map (·.name.text)) ∧
    skiplistScenario.Quiet ∧ skiplistScenario.Accepts ∧
    Settings.validate {} { overrides with suites := names } = .ok (quickConfig.select names) ∧
    (quickConfig.select names).catalog.suites.map (·.name.text)
      = ["set-ll-1k", "set-skiplist-1m"] ∧
    publishedIn (skiplistScenario.run (quickConfig.select names)).2
      = (publishedIn (skiplistScenario.run quickConfig).2).filter
          (fun a => a.key.suite.text ∈ names) ∧
    ((skiplistScenario.run (quickConfig.select names)).1.map fun s => (s.trials, s.failedTrials))
      = .ok (20, 2) := by
  intro names overrides
  have hconfig : Settings.validate {} overrides = .ok quickConfig := rfl
  have hne : names ≠ [] := nofun
  have hnames : ∀ name ∈ names, name ∈ quickConfig.catalog.suites.map (·.name.text) := by
    decide +kernel
  have hquiet : skiplistScenario.Quiet := fun _ => rfl
  have haccepts : skiplistScenario.Accepts := ⟨rfl, fun _ _ => rfl⟩
  obtain ⟨hvalid, hpart⟩ := selection_is_part_iff_fits rfl hconfig hne hnames
  have hfit : quickConfig.Fits := by
    rw [Config.Fits]
    decide +kernel
  obtain ⟨-, hpublished, hsummary, -⟩ :=
    hpart.mpr hfit _ _ hquiet haccepts hquiet haccepts fun _ _ => rfl
  refine ⟨rfl, hconfig, hne, hnames, hquiet, haccepts, hvalid, by decide +kernel, hpublished, ?_⟩
  obtain ⟨hcompleted, -⟩ := Scenario.run_leaves hfit hquiet haccepts
  rw [hsummary, hcompleted]
  decide +kernel

/-! ## A selection of a run that breaks off -/

/-- The name of a suite of one variant, beside the one that cannot be counted. -/
def smallName : SuiteName := ⟨"small", by decide +kernel⟩

/-- Both suites, the small one behind the other. -/
def besideEntries : List (SuiteName × List Variant) :=
  [(wideName, wideVariants), (smallName, wideVariants.take 1)]

/-- The suites as written. -/
def besideRaw : RawConfig :=
  { wideRaw with suites? := some (besideEntries.map fun entry => plainRawSuite entry.1 entry.2) }

/-- The configuration that they make with the settings of `wideConfig`. -/
def besideConfig : Config := plainConfig wideDimensions besideEntries

theorem plain_take_wideVariants : PlainVariants (wideVariants.take 1) where
  ne_nil := by
    refine List.ne_nil_of_length_pos ?_
    rw [List.length_take, length_wideVariants]
    decide
  nodup := nodup_wideVariants.sublist ((List.take_sublist _ _).map _)
  labels v hv := label_wideVariants v (List.mem_of_mem_take hv)

theorem validate_beside : Settings.validate besideRaw wideOverrides = .ok besideConfig := by
  refine validate_wideDimensions rfl rfl rfl (List.cons_ne_nil _ _) (by decide +kernel) ?_
  intro entry hentry
  rcases List.mem_cons.mp hentry with rfl | hentry
  · exact plain_wideVariants
  · rw [List.mem_singleton.mp hentry]
    exact plain_take_wideVariants

/-- What the small suite by itself asks for. -/
theorem besideConfig_select :
    (besideConfig.select ["small"]).catalog.suites
      = [plainSuite smallName (wideVariants.take 1)] := by
  have hwide : wideName.text ∉ ["small"] := by decide
  have hsmall : smallName.text ∈ ["small"] := by decide
  have hsuites : besideConfig.catalog.suites
      = [plainSuite wideName wideVariants, plainSuite smallName (wideVariants.take 1)] := rfl
  rw [Config.select]
  dsimp only
  rw [hsuites, List.filter_cons_of_neg, List.filter_cons_of_pos, List.filter_nil]
  · exact decide_eq_true hsmall
  · exact fun h => hwide (of_decide_eq_true h)

theorem length_smallCells :
    ((besideConfig.select ["small"]).catalog.suites.map fun s => s.variants.length
      * (besideConfig.select ["small"]).sweep.threads.length
      * (besideConfig.select ["small"]).sweep.ratios.length).sum = 2097152 := by
  have hsweep : (besideConfig.select ["small"]).sweep = wideDimensions := rfl
  rw [besideConfig_select, List.map_singleton, List.sum_singleton, hsweep, plainSuite,
    wideDimensions]
  dsimp only
  rw [List.length_take, length_wideVariants, length_wideThreads, length_wideRatios]
  rfl

theorem besideConfig_select_fits : (besideConfig.select ["small"]).Fits := by
  have htrials := Config.length_flatMap_trials (besideConfig.select ["small"])
    (besideConfig.select ["small"]).cells
  rw [Config.length_cells, length_smallCells] at htrials
  rw [Config.fits_iff, Config.trials_eq_cells, htrials]
  decide

/-- The small suite by itself is run for 2097152 records; the run of both suites is over
    behind the header, and publishes none. -/
theorem small_is_no_part :
    wideOverrides.suites = [] ∧
    Settings.validate besideRaw wideOverrides = .ok besideConfig ∧
    (∀ name ∈ ["small"], name ∈ besideConfig.catalog.suites.map (·.name.text)) ∧
    Scenario.unlaunched.run besideConfig
      = (.error .overflow, [.header wideDimensions [wideName, smallName] true]) ∧
    (publishedIn (Scenario.unlaunched.run (besideConfig.select ["small"])).2).length = 2097152 ∧
    ¬ besideConfig.RunsPart ["small"] := by
  have hsuites : besideConfig.catalog.suites
      = wideSuite :: [plainSuite smallName (wideVariants.take 1)] := rfl
  have hcount : ¬ (Sweep.mk wideSuite besideConfig.sweep).trials.length < 2 ^ 64 := by
    rw [show besideConfig.sweep = wideDimensions from rfl, length_wideTrials]
    exact Nat.lt_irrefl _
  have hquiet : Scenario.unlaunched.Quiet := fun _ => rfl
  have haccepts : Scenario.unlaunched.Accepts := ⟨rfl, fun _ _ => rfl⟩
  refine ⟨rfl, validate_beside, ?_, ?_, ?_, ?_⟩
  · intro name hname
    rw [List.mem_singleton.mp hname, hsuites]
    exact List.mem_cons_of_mem _ List.mem_cons_self
  · exact Scenario.run_overflows hsuites hcount rfl
  · obtain ⟨-, hpublished, -⟩ := Scenario.run_leaves besideConfig_select_fits hquiet haccepts
    rw [hpublished, List.length_map, Config.length_cells, length_smallCells]
  · intro hpart
    exact hcount (hpart.fits.sweep (hsuites ▸ List.mem_cons_self))

end BenchSweep
