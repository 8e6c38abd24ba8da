import BenchSweep.Proofs.Suite.Selection
import BenchSweep.Settings.Validate

/-! # What an accepted configuration holds

    Settings are checked piece by piece, by one function for each piece.  Whatever
    passes them all makes a sound configuration (`Settings.validate_sound`): its
    lists are not empty and repeat nothing, the suites of its catalog have
    different names, each with variants of different names, and at least one
    success is required but no more than there are repetitions. -/

namespace BenchSweep

/-- Checking a list piece by piece. -/
theorem mapM_eq_ok_iff {ε α β : Type} (f : α → Except ε β) (xs : List α) (ys : List β) :
    xs.mapM f = .ok ys ↔ List.Forall₂ (fun x y => f x = .ok y) xs ys := by
  induction xs generalizing ys with
  | nil =>
      rw [List.mapM_nil, List.forall₂_nil_left_iff]
      exact ⟨fun h => (Except.ok.inj h).symm, fun h => congrArg Except.ok h.symm⟩
  | cons x xs ih =>
      rw [List.mapM_cons, bind_eq_ok_iff]
      constructor
      · rintro ⟨y, hy, h⟩
        obtain ⟨ys', hys', h⟩ := (bind_eq_ok_iff _ _ _).mp h
        obtain rfl := Except.ok.inj h
        exact List.Forall₂.cons hy ((ih ys').mp hys')
      · intro h
        cases h with
        | @cons _ y _ ys' hy hys' =>
            exact ⟨y, hy, (bind_eq_ok_iff _ _ _).mpr ⟨ys', (ih ys').mpr hys', rfl⟩⟩

/-- Checking pieces that were checked before. -/
theorem mapM_map_eq_ok {ε α β : Type} {f : α → Except ε β} {g : β → α} {ys : List β}
    (h : ∀ y ∈ ys, f (g y) = .ok y) : (ys.map g).mapM f = .ok ys := by
  rw [mapM_eq_ok_iff, List.forall₂_map_left_iff, List.forall₂_same]
  exact h

/-- What is in the second of two related lists comes from the first. -/
theorem exists_of_forall₂_of_mem {α β : Type} {R : α → β → Prop} {xs : List α} {ys : List β}
    (h : List.Forall₂ R xs ys) {y : β} (hy : y ∈ ys) : ∃ x ∈ xs, R x y := by
  induction h with
  | nil => exact absurd hy List.not_mem_nil
  | @cons x y' xs ys hxy _ ih =>
      rcases List.mem_cons.mp hy with rfl | hmem
      · exact ⟨x, List.mem_cons_self, hxy⟩
      · obtain ⟨x', hx', hR⟩ := ih hmem
        exact ⟨x', List.mem_cons_of_mem _ hx', hR⟩

/-- A catalog whose suites can be told apart, and whose suites' variants can. -/
structure Catalog.Sound (catalog : Catalog) : Prop where
  nodup_names : (catalog.suites.map (·.name)).Nodup
  variants_ne : ∀ suite ∈ catalog.suites, suite.variants ≠ []
  nodup_variants : ∀ suite ∈ catalog.suites, (suite.variants.map (·.name)).Nodup

/-- A configuration whose parts have passed their checks. -/
structure Config.Sound (config : Config) : Prop where
  threads_ne : config.sweep.threads ≠ []
  nodup_threads : config.sweep.threads.Nodup
  ratios_ne : config.sweep.ratios ≠ []
  nodup_ratios : config.sweep.ratios.Nodup
  minSuccesses_pos : 1 ≤ config.runner.minSuccesses.toNat
  minSuccesses_le : config.runner.minSuccesses.toNat ≤ config.sweep.runs.val.toNat
  catalog : config.catalog.Sound

namespace Settings

/-- Dimensions are accepted if each of them is, and the lists hold something, and
    nothing twice. -/
theorem validateSweep_eq_ok_iff (raw : RawSweep) (dims : Dimensions) :
    validateSweep raw = .ok dims ↔
      TrialDuration.ofSecs raw.durationSecs = .ok dims.duration ∧
      RunCount.ofWord raw.runs = .ok dims.runs ∧
      raw.threads.mapM ThreadCount.ofWord = .ok dims.threads ∧
      raw.ratios.mapM Permil.ofWord = .ok dims.ratios ∧
      (dims.threads ≠ [] ∧ dims.threads.Nodup) ∧ dims.ratios ≠ [] ∧ dims.ratios.Nodup := by
  constructor
  · intro h
    obtain ⟨duration, hduration, h⟩ := (bind_eq_ok_iff _ _ _).mp h
    obtain ⟨runs, hruns, h⟩ := (bind_eq_ok_iff _ _ _).mp h
    obtain ⟨threads, hthreads, h⟩ := (bind_eq_ok_iff _ _ _).mp h
    obtain ⟨ratios, hratios, h⟩ := (bind_eq_ok_iff _ _ _).mp h
    obtain ⟨hthreads', hratios', rfl⟩ := (Dimensions.make_eq_ok_iff ..).mp h
    exact ⟨hduration, hruns, hthreads, hratios, hthreads', hratios'⟩
  · rintro ⟨hduration, hruns, hthreads, hratios, hthreads', hratios'⟩
    refine (bind_eq_ok_iff _ _ _).mpr ⟨_, hduration, ?_⟩
    refine (bind_eq_ok_iff _ _ _).mpr ⟨_, hruns, ?_⟩
    refine (bind_eq_ok_iff _ _ _).mpr ⟨_, hthreads, ?_⟩
    refine (bind_eq_ok_iff _ _ _).mpr ⟨_, hratios, ?_⟩
    exact (Dimensions.make_eq_ok_iff ..).mpr ⟨hthreads', hratios', rfl⟩

/-- The accepted number of required successes can be reached. -/
theorem validateRunner_sound {raw : RawRunner} {runs : RunCount} {runner : RunnerSettings}
    (h : validateRunner raw runs = .ok runner) :
    1 ≤ runner.minSuccesses.toNat ∧ runner.minSuccesses.toNat ≤ runs.val.toNat := by
  rw [validateRunner] at h
  split at h
  · exact nomatch h
  · split at h
    · exact nomatch h
    · next hrange =>
        obtain ⟨hzero, hle⟩ := not_or.mp hrange
        obtain rfl := Except.ok.inj h
        refine ⟨?_, UInt32.le_iff_toNat_le.mp (UInt32.not_lt.mp hle)⟩
        rw [Nat.one_le_iff_ne_zero]
        intro h0
        exact hzero (UInt32.toNat_inj.mp h0)

/-- A suite is accepted if each of its parts is, and if it has variants whose names
    differ. -/
theorem validateSuite_eq_ok_iff (binDir : String) (raw : RawSuite) (suite : Suite) :
    validateSuite binDir raw = .ok suite ↔
      Name.ofString .suite raw.name = .ok suite.name ∧
      validateExecutable suite.name binDir raw.executable? = .ok suite.executable ∧
      raw.variants.mapM validateVariant = .ok suite.variants ∧
      validateMarker (raw.marker?.getD defaultMarker) = .ok suite.marker ∧
      suite.encoding = raw.encoding ∧ suite.keys = raw.keys? ∧
      suite.variants ≠ [] ∧ (suite.variants.map (·.name)).Nodup := by
  constructor
  · intro h
    obtain ⟨name, hname, h⟩ := (bind_eq_ok_iff _ _ _).mp h
    obtain ⟨executable, hexecutable, h⟩ := (bind_eq_ok_iff _ _ _).mp h
    obtain ⟨variants, hvariants, h⟩ := (bind_eq_ok_iff _ _ _).mp h
    obtain ⟨marker, hmarker, h⟩ := (bind_eq_ok_iff _ _ _).mp h
    obtain ⟨hne, hnodup, rfl⟩ := (Suite.make_eq_ok_iff ..).mp h
    exact ⟨hname, hexecutable, hvariants, hmarker, rfl, rfl, hne, hnodup⟩
  · obtain ⟨name, executable, encoding, keys, marker, variants⟩ := suite
    rintro ⟨hname, hexecutable, hvariants, hmarker, rfl, rfl, hne, hnodup⟩
    refine (bind_eq_ok_iff _ _ _).mpr ⟨_, hname, ?_⟩
    refine (bind_eq_ok_iff _ _ _).mpr ⟨_, hexecutable, ?_⟩
    refine (bind_eq_ok_iff _ _ _).mpr ⟨_, hvariants, ?_⟩
    refine (bind_eq_ok_iff _ _ _).mpr ⟨_, hmarker, ?_⟩
    exact (Suite.make_eq_ok_iff ..).mpr ⟨hne, hnodup, rfl⟩

/-- The built-in catalog is sound. -/
theorem builtin_sound (binDir : String) : (Catalog.builtin binDir).Sound := by
  have hnames : (Catalog.builtin binDir).suites.map (·.name)
      = (Catalog.builtin "").suites.map (·.name) := rfl
  have hvariants : (Catalog.builtin binDir).suites.map (·.variants)
      = (Catalog.builtin "").suites.map (·.variants) := rfl
  have hall : ∀ vs ∈ (Catalog.builtin "").suites.map (·.variants),
      vs ≠ [] ∧ (vs.map (·.name)).Nodup := by decide +kernel
  have hsuite : ∀ suite ∈ (Catalog.builtin binDir).suites,
      suite.variants ≠ [] ∧ (suite.variants.map (·.name)).Nodup := by
    intro suite hmem
    exact hall _ (hvariants ▸ List.mem_map_of_mem hmem)
  refine ⟨?_, fun s hs => (hsuite s hs).1, fun s hs => (hsuite s hs).2⟩
  rw [hnames]
  decide +kernel

/-- An accepted catalog is sound. -/
theorem validateCatalog_sound {binDir : String} {raw? : Option (List RawSuite)}
    {catalog : Catalog} (h : validateCatalog binDir raw? = .ok catalog) : catalog.Sound := by
  cases raw? with
  | none =>
      obtain rfl := Except.ok.inj h
      exact builtin_sound binDir
  | some raw =>
      obtain ⟨suites, hsuites, h⟩ := (bind_eq_ok_iff _ _ _).mp h
      obtain ⟨-, hnodup, rfl⟩ := (Catalog.ofSuites_eq_ok_iff _ _).mp h
      have hall : ∀ suite ∈ suites,
          suite.variants ≠ [] ∧ (suite.variants.map (·.name)).Nodup := by
        intro suite hmem
        have hmade := (mapM_eq_ok_iff _ _ _).mp hsuites
        obtain ⟨raw', -, hraw⟩ := exists_of_forall₂_of_mem hmade hmem
        obtain ⟨-, -, -, -, -, -, hvariants⟩ := (validateSuite_eq_ok_iff _ _ _).mp hraw
        exact hvariants
      exact ⟨hnodup, fun s hs => (hall s hs).1, fun s hs => (hall s hs).2⟩

/-- A selection from a sound catalog is sound. -/
theorem selectSuites_sound {catalog catalog' : Catalog} {names : List String}
    (hsound : catalog.Sound) (h : selectSuites catalog names = .ok catalog') :
    catalog'.Sound := by
  rw [selectSuites] at h
  split at h
  · obtain rfl := Except.ok.inj h
    exact hsound
  · have hsub : catalog'.suites.Sublist catalog.suites :=
      (Catalog.select_eq_ok_iff.mp h).2 ▸ List.filter_sublist
    exact ⟨(hsub.map _).nodup hsound.nodup_names,
      fun s hs => hsound.variants_ne s (hsub.subset hs),
      fun s hs => hsound.nodup_variants s (hsub.subset hs)⟩

/-- A configuration is accepted if each of its parts is. -/
theorem validate_eq_ok_iff (raw : RawConfig) (overrides : Overrides) (config : Config) :
    validate raw overrides = .ok config ↔
      validateSweep (raw.sweep.override overrides) = .ok config.sweep ∧
      validateRunner raw.runner config.sweep.runs = .ok config.runner ∧
      ∃ catalog, validateCatalog config.runner.binDir raw.suites? = .ok catalog ∧
        selectSuites catalog overrides.suites = .ok config.catalog := by
  constructor
  · intro h
    obtain ⟨sweep, hsweep, h⟩ := (bind_eq_ok_iff _ _ _).mp h
    obtain ⟨runner, hrunner, h⟩ := (bind_eq_ok_iff _ _ _).mp h
    obtain ⟨catalog, hcatalog, h⟩ := (bind_eq_ok_iff _ _ _).mp h
    obtain ⟨selected, hselected, h⟩ := (bind_eq_ok_iff _ _ _).mp h
    obtain rfl := Except.ok.inj h
    exact ⟨hsweep, hrunner, catalog, hcatalog, hselected⟩
  · rintro ⟨hsweep, hrunner, catalog, hcatalog, hselected⟩
    refine (bind_eq_ok_iff _ _ _).mpr ⟨_, hsweep, ?_⟩
    refine (bind_eq_ok_iff _ _ _).mpr ⟨_, hrunner, ?_⟩
    refine (bind_eq_ok_iff _ _ _).mpr ⟨_, hcatalog, ?_⟩
    exact (bind_eq_ok_iff _ _ _).mpr ⟨_, hselected, rfl⟩

/-- **AN ACCEPTED CONFIGURATION** is sound. -/
theorem validate_sound {raw : RawConfig} {overrides : Overrides} {config : Config}
    (h : validate raw overrides = .ok config) : config.Sound := by
  obtain ⟨hsweep, hrunner, catalog, hcatalog, hselected⟩ := (validate_eq_ok_iff _ _ _).mp h
  obtain ⟨-, -, -, -, ⟨hthreads, hthreads'⟩, hratios, hratios'⟩ :=
    (validateSweep_eq_ok_iff _ _).mp hsweep
  obtain ⟨hpos, hle⟩ := validateRunner_sound hrunner
  exact ⟨hthreads, hthreads', hratios, hratios', hpos, hle,
    selectSuites_sound (validateCatalog_sound hcatalog) hselected⟩

end Settings

end BenchSweep
