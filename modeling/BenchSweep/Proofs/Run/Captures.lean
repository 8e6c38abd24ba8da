import BenchSweep.Proofs.Capture.Path
import BenchSweep.Proofs.Run.Interrupted

/-! # What captures leave behind

    A run that keeps the output of its trials writes one file after each of them,
    and a file that is written twice holds what was written last (`filesIn`).  No
    output is lost exactly if the joint names of suites and variants tell them
    apart (`keepsOutputs_iff_unambiguous`).  Acceptance does not ask for that:
    variants of two suites may share their files, and then the later output takes
    the place of the earlier one. -/

namespace BenchSweep

/-! ## Files -/

/-- The file that a deed writes, and what it writes there. -/
def Deed.capture? : Deed → Option (String × String)
  | .capture path text => some (path, text)
  | _                  => none

/-- Writing a file: whatever it held before is gone. -/
def writeFile (files : List (String × String)) (file : String × String) :
    List (String × String) :=
  files.filter (fun f => f.1 ≠ file.1) ++ [file]

/-- What the captures of a history write, oldest first. -/
def writesIn (h : History) : List (String × String) := h.filterMap Deed.capture?

/-- The files that a history leaves if nothing keeps them from being written. -/
def filesIn (h : History) : List (String × String) := (writesIn h).foldl writeFile []

theorem writesIn_append (h h' : History) : writesIn (h ++ h') = writesIn h ++ writesIn h' :=
  List.filterMap_append

theorem writesIn_flatMap {α : Type} (f : α → History) (xs : List α) :
    writesIn (xs.flatMap f) = xs.flatMap fun x => writesIn (f x) := List.filterMap_flatMap ..

/-- A file of a new name comes behind all others. -/
theorem writeFile_of_not_mem {files : List (String × String)} {file : String × String}
    (hfile : file.1 ∉ files.map Prod.fst) : writeFile files file = files ++ [file] := by
  rw [writeFile]
  congr 1
  refine List.filter_eq_self.mpr ?_
  intro f hf
  have hne : f.1 ≠ file.1 := fun h => hfile (h ▸ List.mem_map_of_mem hf)
  exact decide_eq_true hne

/-- Files of different names are all there in the end, each as it was written. -/
theorem foldl_writeFile {files writes : List (String × String)}
    (hnodup : ((files ++ writes).map Prod.fst).Nodup) :
    writes.foldl writeFile files = files ++ writes := by
  induction writes generalizing files with
  | nil => exact (List.append_nil files).symm
  | cons w ws ih =>
      have hnew : w.1 ∉ files.map Prod.fst := by
        rw [List.map_append, List.map_cons] at hnodup
        exact fun h => List.disjoint_of_nodup_append hnodup h List.mem_cons_self
      rw [List.append_cons] at hnodup ⊢
      rw [List.foldl_cons, writeFile_of_not_mem hnew]
      exact ih hnodup

/-! ## What runs write -/

namespace Scenario

/-- Captures go to a directory in which every file can be written. -/
structure Captures (sc : Scenario) (dir : String) : Prop where
  dir : sc.captureDir? = some dir
  succeed : ∀ h path, sc.captureFault? h path = none

/-- The file of a trial that comes to its end, and its output. -/
def keptFile (sc : Scenario) (dir : String) (t : Trial) : String × String :=
  (Capture.path dir (sc.result t), (sc.result t).stdout)

variable {sc : Scenario} {config : Config} {dir : String}

theorem writesIn_deeds (hdir : sc.captureDir? = some dir) (t : Trial) :
    writesIn (sc.deeds t) = [sc.keptFile dir t] := by
  rw [deeds, captures, hdir]
  rfl

/-- The trials that are taken in are all kept. -/
theorem writesIn_flatMap_deeds (hdir : sc.captureDir? = some dir) (ts : List Trial) :
    writesIn (ts.flatMap sc.deeds) = ts.map (sc.keptFile dir) := by
  simp only [writesIn_flatMap, writesIn_deeds hdir]
  exact List.flatMap_pure_eq_map _ _

/-- What is written up to a position are the outputs of its trials. -/
theorem writesIn_history (hdir : sc.captureDir? = some dir) (done : List Cell)
    (begun : List Trial) :
    writesIn (sc.history config done begun)
      = (done.flatMap (·.trials config.sweep.runs) ++ begun).map (sc.keptFile dir) := by
  have hcell : ∀ c, writesIn (sc.cellDeeds config c)
      = (c.trials config.sweep.runs).map (sc.keptFile dir) := by
    intro c
    rw [cellDeeds, writesIn_append, writesIn_flatMap_deeds hdir]
    exact List.append_nil _
  have hcells : writesIn (done.flatMap (sc.cellDeeds config))
      = (done.flatMap (·.trials config.sweep.runs)).map (sc.keptFile dir) := by
    simp only [writesIn_flatMap, hcell, List.map_flatMap]
  rw [history, writesIn, List.filterMap_cons_none rfl, ← writesIn, writesIn_append, hcells,
    writesIn_flatMap_deeds hdir, List.map_append]

/-- The trials of a history are the first of the configuration, and what is written is
    just their outputs, but for those that are left out at its end. -/
structure WritesOutputs (sc : Scenario) (config : Config) (dir : String) (left : List Trial)
    (h : History) : Prop where
  completed : completedIn h <+: config.trials
  writes    : writesIn h ++ left.map (sc.keptFile dir) = (completedIn h).map (sc.keptFile dir)

/-- Up to a position that holds, and with deeds behind it that write no file, too. -/
theorem writesOutputs_position (hdir : sc.captureDir? = some dir) {done : List Cell}
    {begun left : List Trial} {last : History}
    (hbegun : done.flatMap (·.trials config.sweep.runs) ++ begun ++ left <+: config.trials)
    (hcompleted : completedIn last = left) (hwrites : writesIn last = []) :
    sc.WritesOutputs config dir left (sc.history config done begun ++ last) where
  completed := by
    rw [completedIn_append, completedIn_history, hcompleted]
    exact hbegun
  writes := by
    rw [completedIn_append, writesIn_append, completedIn_history, writesIn_history hdir,
      hcompleted, hwrites, List.append_nil, ← List.map_append]

/-- If they complete no trial either, nothing is left out. -/
theorem writesOutputs_all (hdir : sc.captureDir? = some dir) {done : List Cell}
    {begun : List Trial} {last : History}
    (hbegun : done.flatMap (·.trials config.sweep.runs) ++ begun <+: config.trials)
    (hcompleted : completedIn last = []) (hwrites : writesIn last = []) :
    sc.WritesOutputs config dir [] (sc.history config done begun ++ last) :=
  writesOutputs_position hdir (by rwa [List.append_nil]) hcompleted hwrites

/-- **EVERY RUN** writes the outputs of just the trials it completes, in order.  Only a run
    that breaks off over its counts may leave out the last one. -/
theorem run_writesOutputs (config : Config) (hdir : sc.captureDir? = some dir) :
    ∃ left, sc.WritesOutputs config dir left (sc.run config).2 ∧ left.length ≤ 1 ∧
      ((sc.run config).1 ≠ .error .overflow → left = []) := by
  cases hheader : sc.headerFault? with
  | some fault =>
      rw [run_refused hheader]
      exact ⟨[], ⟨List.nil_prefix, rfl⟩, Nat.zero_le 1, fun _ => rfl⟩
  | none =>
      obtain ⟨-, ⟨-, hrun⟩ | ⟨cut, hcut, hanswer⟩⟩ := run_course config hheader
      · have hall : config.cells.flatMap (·.trials config.sweep.runs) ++ [] = config.trials := by
          rw [List.append_nil, config.trials_eq_cells]
        rw [hrun, ← List.append_nil (sc.history config config.cells [])]
        exact ⟨[], writesOutputs_all hdir (hall ▸ List.prefix_rfl) rfl rfl, Nat.zero_le 1,
          fun _ => rfl⟩
      · rw [hanswer]
        generalize (sc.run config).2 = h at hcut
        cases hcut with
        | interrupted hcells hn hlast hfired =>
            have hbegun := Config.prefix_trials hcells (Nat.le_of_lt hn)
            refine ⟨[], ?_, Nat.zero_le 1, fun _ => rfl⟩
            rcases hlast with rfl | rfl
            · exact writesOutputs_all hdir hbegun rfl rfl
            · exact writesOutputs_all hdir hbegun rfl rfl
        | refused hcells hrefused =>
            have hbegun := Config.prefix_trials hcells (Nat.le_refl _)
            exact ⟨[], writesOutputs_all hdir hbegun rfl rfl, Nat.zero_le 1, fun _ => rfl⟩
        | @overflow _ _ c n _ hcells hn hlast hover =>
            rcases hlast with rfl | rfl
            · have hbegun := Config.prefix_trials hcells (Nat.le_of_lt hn)
              exact ⟨[], writesOutputs_all hdir hbegun rfl rfl, Nat.zero_le 1, fun _ => rfl⟩
            · have hcompleted : completedIn [.trial (c.trial n) (sc.ending (c.trial n))]
                  = [c.trial n] :=
                List.filterMap_cons_some (sc.completed?_ending _)
              have hbegun := Config.prefix_trials hcells (Nat.succ_le_of_lt hn)
              rw [Cell.first_succ, ← List.append_assoc] at hbegun
              exact ⟨[c.trial n], writesOutputs_position hdir hbegun hcompleted rfl,
                Nat.le_refl 1, fun hne => absurd rfl hne⟩

end Scenario

/-! ## When no output is lost -/

namespace Config

variable (config : Config)

/-- A result of one of the trials of a configuration. -/
def HasResult (r : TrialResult) : Prop :=
  ∃ t ∈ config.trials, r.key = t.key ∧ r.repetition = t.repetition

/-- Different suites or variants have different joint names. -/
def Unambiguous : Prop :=
  ∀ s ∈ config.catalog.suites, ∀ v ∈ s.variants,
    ∀ s' ∈ config.catalog.suites, ∀ v' ∈ s'.variants,
      Capture.jointName s.name v.name = Capture.jointName s'.name v'.name →
        s.name = s'.name ∧ v.name = v'.name

/-- No output of a trial is lost: different trials are kept in different files, so
    that after any run, however it ends, there is one file for each trial that was
    completed, with the output of just that trial; and after a run that nothing
    disturbs, one for every trial.  Only a run that breaks off over its counts, with a
    trial it has not taken in, may leave out the output of that one. -/
structure KeepsOutputs : Prop where
  apart : ∀ dir r r', config.HasResult r → config.HasResult r' →
    (r.key, r.repetition) ≠ (r'.key, r'.repetition) → Capture.path dir r ≠ Capture.path dir r'
  kept : ∀ (sc : Scenario) dir, sc.Captures dir → ∃ left : List Trial,
    filesIn (sc.run config).2 ++ left.map (sc.keptFile dir)
        = (completedIn (sc.run config).2).map (sc.keptFile dir) ∧
      left.length ≤ 1 ∧ ((sc.run config).1 ≠ .error .overflow → left = [])
  complete : ∀ (sc : Scenario) dir, sc.Captures dir → config.Fits → sc.Quiet → sc.Accepts →
    filesIn (sc.run config).2 = config.trials.map (sc.keptFile dir)

variable {config}

theorem mem_trials_iff {t : Trial} :
    t ∈ config.trials ↔ t.suite ∈ config.catalog.suites ∧ t.variant ∈ t.suite.variants ∧
      t.threads ∈ config.sweep.threads ∧ t.ratio ∈ config.sweep.ratios ∧
      ∃ k < config.runs, t.repetition = UInt32.ofNat k := by
  simp only [trials, sweeps, List.flatMap_map, List.mem_flatMap, Sweep.trials, List.mem_map,
    List.mem_range]
  constructor
  · rintro ⟨s, hs, v, hv, th, hth, r, hr, k, hk, rfl⟩
    exact ⟨hs, hv, hth, hr, k, hk, rfl⟩
  · rintro ⟨hs, hv, hth, hr, k, hk, hrep⟩
    refine ⟨_, hs, _, hv, _, hth, _, hr, k, hk, ?_⟩
    rw [Sweep.trial, ← hrep]

/-- The trials of a sound configuration stand at different places. -/
theorem Sound.nodup_places (h : config.Sound) : (config.trials.map Sweep.place).Nodup := by
  rw [trials, sweeps, List.flatMap_map, List.map_flatMap]
  refine nodup_flatMap_of_tag (fun p => p.1.suite) Suite.name ?_ h.catalog.nodup_names ?_
  · intro s _ p hp
    obtain ⟨t, ht, rfl⟩ := List.mem_map.mp hp
    rw [Sweep.trials_eq_cells] at ht
    obtain ⟨c, hc, ht⟩ := List.mem_flatMap.mp ht
    obtain ⟨k, -, rfl⟩ := List.mem_map.mp ht
    exact congrArg Suite.name (Sweep.suite_of_mem_cells hc)
  · intro s hs
    refine Sweep.nodup_places _ ?_
    exact Sweep.nodup_keys _ (h.catalog.nodup_variants s hs) h.nodup_threads h.nodup_ratios

/-- Joint names that tell suites and variants apart keep paths apart. -/
theorem Unambiguous.place_eq (hjoint : config.Unambiguous) {dir : String} {r r' : TrialResult}
    (hr : config.HasResult r) (hr' : config.HasResult r')
    (hpath : Capture.path dir r = Capture.path dir r') :
    (r.key, r.repetition) = (r'.key, r'.repetition) := by
  obtain ⟨t, ht, hkey, -⟩ := hr
  obtain ⟨t', ht', hkey', -⟩ := hr'
  obtain ⟨hs, hv, -⟩ := mem_trials_iff.mp ht
  obtain ⟨hs', hv', -⟩ := mem_trials_iff.mp ht'
  obtain ⟨hnames, hthreads, hratio, hrepetition⟩ := (Capture.path_eq_iff dir r r').mp hpath
  rw [hkey, hkey'] at hnames
  obtain ⟨hsuite, hvariant⟩ := hjoint _ hs _ hv _ hs' _ hv' hnames
  have hkeys : r.key = r'.key := by
    rw [hkey, hkey'] at hthreads hratio ⊢
    rw [Trial.key, Trial.key, Key.mk.injEq]
    exact ⟨hsuite, hvariant, hthreads, hratio⟩
  exact Prod.ext hkeys hrepetition

/-- The files of completed trials have different names. -/
theorem Unambiguous.nodup_paths (hjoint : config.Unambiguous) (hsound : config.Sound)
    (sc : Scenario) (dir : String) {ts : List Trial} (hts : ts.Sublist config.trials) :
    ((ts.map (sc.keptFile dir)).map Prod.fst).Nodup := by
  have hapart := (List.pairwise_map.mp hsound.nodup_places).sublist hts
  have hresult : ∀ t ∈ ts, config.HasResult (sc.result t) := fun t ht =>
    ⟨t, hts.subset ht, sc.result_key t, sc.result_repetition t⟩
  simp only [List.Nodup, List.map_map, List.pairwise_map, Function.comp_apply, Scenario.keptFile]
  refine hapart.imp_of_mem ?_
  intro t t' ht ht' hplace hpath
  have hsame := hjoint.place_eq (hresult t ht) (hresult t' ht') hpath
  rw [sc.result_key, sc.result_key, sc.result_repetition, sc.result_repetition,
    Prod.mk.injEq] at hsame
  exact hplace (Prod.ext hsame.1 (congrArg UInt32.toNat hsame.2))

/-- If joint names tell suites and variants apart, no output is lost. -/
theorem Unambiguous.keepsOutputs (hjoint : config.Unambiguous) (hsound : config.Sound) :
    config.KeepsOutputs := by
  have hfiles : ∀ (sc : Scenario) dir left, sc.WritesOutputs config dir left (sc.run config).2 →
      filesIn (sc.run config).2 = writesIn (sc.run config).2 := by
    intro sc dir left houtputs
    have hnodup := hjoint.nodup_paths hsound sc dir houtputs.completed.sublist
    rw [← houtputs.writes, List.map_append] at hnodup
    exact (foldl_writeFile (List.Nodup.of_append_left hnodup)).trans (List.nil_append _)
  refine ⟨?_, ?_, ?_⟩
  · intro dir r r' hr hr' hne hpath
    exact hne (hjoint.place_eq hr hr' hpath)
  · intro sc dir hcaptures
    obtain ⟨left, houtputs, hshort, hleft⟩ := Scenario.run_writesOutputs config hcaptures.dir
    rw [hfiles sc dir left houtputs]
    exact ⟨left, houtputs.writes, hshort, hleft⟩
  · intro sc dir hcaptures hfit hquiet haccepts
    have hrun := Scenario.run_complete hfit hquiet haccepts
    obtain ⟨left, houtputs, -, hleft⟩ := Scenario.run_writesOutputs config hcaptures.dir
    have hwrites := houtputs.writes
    rw [hleft (by rw [hrun]; nofun), List.map_nil, List.append_nil] at hwrites
    rw [hfiles sc dir left houtputs, hwrites, hrun, Scenario.completedIn_history, List.append_nil,
      ← config.trials_eq_cells]

/-- If different trials are kept in different files, joint names tell suites and
    variants apart. -/
theorem KeepsOutputs.unambiguous (hkeeps : config.KeepsOutputs) (hsound : config.Sound) :
    config.Unambiguous := by
  obtain ⟨th, hth⟩ := List.exists_mem_of_ne_nil _ hsound.threads_ne
  obtain ⟨r, hr⟩ := List.exists_mem_of_ne_nil _ hsound.ratios_ne
  -- a result of the first repetition of any variant of any suite
  let result (s : Suite) (v : Variant) : TrialResult :=
    { key := ⟨s.name, v.name, th, r⟩, repetition := 0, stdout := "", exitCode := none,
      outcome := .figure 0 }
  have hresult : ∀ s ∈ config.catalog.suites, ∀ v ∈ s.variants,
      config.HasResult (result s v) := by
    intro s hs v hv
    exact ⟨⟨s, v, th, r, 0⟩,
      mem_trials_iff.mpr ⟨hs, hv, hth, hr, 0, config.sweep.runs.toNat_pos, rfl⟩, rfl, rfl⟩
  intro s hs v hv s' hs' v' hv' hjoint
  by_contra hne
  refine hkeeps.apart "" _ _ (hresult s hs v hv) (hresult s' hs' v' hv') ?_ ?_
  · intro hplaces
    have hkeys : (result s v).key = (result s' v').key := congrArg Prod.fst hplaces
    exact hne ⟨congrArg Key.suite hkeys, congrArg Key.variant hkeys⟩
  · exact (Capture.path_eq_iff ..).mpr ⟨hjoint, rfl, rfl, rfl⟩

end Config

/-- **NO OUTPUT IS LOST** by the runs of an accepted configuration exactly if the
    joint names of its suites and variants tell them apart. -/
theorem keepsOutputs_iff_unambiguous {raw : RawConfig} {overrides : Overrides} {config : Config}
    (hconfig : Settings.validate raw overrides = .ok config) :
    config.KeepsOutputs ↔ config.Unambiguous := by
  have hsound := Settings.validate_sound hconfig
  exact ⟨fun hkeeps => hkeeps.unambiguous hsound, fun hjoint => hjoint.keepsOutputs hsound⟩

/-- The skip lists have names of their own: their outputs are all kept. -/
theorem skiplists_keepOutputs :
    Settings.validate {} skiplistOverrides = .ok skiplistConfig ∧ skiplistConfig.Unambiguous ∧
      skiplistConfig.KeepsOutputs := by
  have hconfig : Settings.validate {} skiplistOverrides = .ok skiplistConfig := rfl
  have hjoint : skiplistConfig.Unambiguous := by
    rw [Config.Unambiguous]
    decide +kernel
  exact ⟨hconfig, hjoint, (keepsOutputs_iff_unambiguous hconfig).mpr hjoint⟩

/-! ## Two suites that share a file -/

/-- Two suites, each of one variant. -/
def sharedRaw : RawConfig :=
  { suites? := some
      [{ name := "a", variants := [{ name := "b-c" }] },
       { name := "a-b", variants := [{ name := "c" }] }] }

/-- One trial of each. -/
def sharedOverrides : Overrides :=
  { runs? := some 1, threads? := some [1], ratios? := some [100] }

/-- The configuration that these settings make. -/
def sharedConfig : Config := (Settings.validate sharedRaw sharedOverrides).toOption.get rfl

/-- The variant of the one suite finds seven operations a second, that of the other
    one eight. -/
def sharedEnding (t : Trial) : Ending :=
  if t.suite.name.text = "a" then .exited "Ops/sec = 7".toUTF8.toList (.code 0)
  else .exited "Ops/sec = 8".toUTF8.toList (.code 0)

/-- The scenario of these endings, with nothing in the way and with captures that all
    succeed. -/
def sharedScenario : Scenario :=
  { skiplistScenario with
    ending := sharedEnding
    finishes := by
      intro t
      rw [sharedEnding]
      split
      · exact fun h => nomatch h
      · exact fun h => nomatch h
    captureFault? := fun _ _ => none }

/-- Both trials are completed and one file is left, with the output of the second. -/
theorem shared_overwritten :
    Settings.validate sharedRaw sharedOverrides = .ok sharedConfig ∧
    sharedScenario.Captures "raw" ∧ sharedScenario.Quiet ∧ sharedScenario.Accepts ∧
    sharedConfig.trials.length = 2 ∧
    (sharedScenario.run sharedConfig).1 = .ok { trials := 2, aggregates := 2 } ∧
    completedIn (sharedScenario.run sharedConfig).2 = sharedConfig.trials ∧
    filesIn (sharedScenario.run sharedConfig).2
      = [("raw/a-b-c-t1-r100-0.txt", "Ops/sec = 8")] ∧
    ¬ sharedConfig.KeepsOutputs := by
  have hconfig : Settings.validate sharedRaw sharedOverrides = .ok sharedConfig := rfl
  have hambiguous : ¬ sharedConfig.Unambiguous := by
    rw [Config.Unambiguous]
    decide +kernel
  have hlost : ¬ sharedConfig.KeepsOutputs := fun hkeeps =>
    hambiguous (hkeeps.unambiguous (Settings.validate_sound hconfig))
  have hcaptures : sharedScenario.Captures "raw" := ⟨rfl, fun _ _ => rfl⟩
  have hquiet : sharedScenario.Quiet := fun _ => rfl
  have haccepts : sharedScenario.Accepts := ⟨rfl, fun _ _ => rfl⟩
  refine ⟨hconfig, hcaptures, hquiet, haccepts, ?_, ?_, ?_, ?_, hlost⟩
  all_goals decide +kernel

end BenchSweep
