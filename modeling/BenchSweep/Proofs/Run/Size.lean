import BenchSweep.Proofs.Run.Overflow

/-! # What a sweep says about its size

    A sweep tells how many trials it has, whether it has any and how long they
    take together.  All three come from one count.  Of an accepted configuration
    **ALL OF IT IS TRUE** exactly if the number of trials is a 64-bit word
    (`size_exact_iff`); of more trials the sweep tells nothing at all, and there are
    accepted configurations with more (`wide_sizeless`).  The pairs of a thread count
    and a ratio never are too many (`Config.Sound.perVariant_lt`). -/

namespace BenchSweep

/-- Numbers below a bound, none of them twice, are at most as many as the bound says. -/
theorem length_le_of_nodup_of_lt {n : Nat} {xs : List Nat} (hnodup : xs.Nodup)
    (hlt : ∀ x ∈ xs, x < n) : xs.length ≤ n := by
  have hsub : xs ⊆ List.range n := fun x hx => List.mem_range.mpr (hlt x hx)
  have hle := (List.subperm_of_subset hnodup hsub).length_le
  rwa [List.length_range] at hle

namespace Config

variable {config : Config}

/-- Different thread counts are fewer than `2 ^ 32`, and different ratios at most 1001. -/
theorem Sound.perVariant_lt (hsound : config.Sound) : config.sweep.perVariant < 2 ^ 64 := by
  have hthreads : config.sweep.threads.length ≤ 2 ^ 32 := by
    have hnodup : (config.sweep.threads.map fun t => t.val.toNat).Nodup := by
      refine hsound.nodup_threads.map fun t t' h => ?_
      cases t
      cases t'
      exact (ThreadCount.mk.injEq ..).mpr (UInt32.toNat_inj.mp h)
    rw [← List.length_map (f := fun t : ThreadCount => t.val.toNat)]
    exact length_le_of_nodup_of_lt hnodup
      (List.forall_mem_map.mpr fun t _ => t.val.toNat_lt)
  have hratios : config.sweep.ratios.length ≤ 1001 := by
    have hnodup : (config.sweep.ratios.map fun r => r.val.toNat).Nodup := by
      refine hsound.nodup_ratios.map fun r r' h => ?_
      cases r
      cases r'
      exact (Permil.mk.injEq ..).mpr (UInt32.toNat_inj.mp h)
    rw [← List.length_map (f := fun r : Permil => r.val.toNat)]
    exact length_le_of_nodup_of_lt hnodup
      (List.forall_mem_map.mpr fun r _ => Nat.lt_succ_of_le (UInt32.le_iff_toNat_le.mp r.le_thousand))
  calc config.sweep.perVariant
      ≤ 2 ^ 32 * 1001 := Nat.mul_le_mul hthreads hratios
    _ < 2 ^ 64 := by decide

/-- Every suite of a sound configuration has trials. -/
theorem Sound.trials_pos (hsound : config.Sound) {suite : Suite}
    (hsuite : suite ∈ config.catalog.suites) :
    0 < suite.variants.length * config.sweep.threads.length * config.sweep.ratios.length
      * config.runs := by
  have hvariants := List.length_pos_of_ne_nil (hsound.catalog.variants_ne suite hsuite)
  have hthreads := List.length_pos_of_ne_nil hsound.threads_ne
  have hratios := List.length_pos_of_ne_nil hsound.ratios_ne
  exact Nat.mul_pos (Nat.mul_pos (Nat.mul_pos hvariants hthreads) hratios)
    config.sweep.runs.toNat_pos

end Config

namespace Sweep

variable {s : Sweep}

/-- What a sweep tells if its trials can be counted. -/
theorem size_of_lt (hpos : 0 < s.trials.length) (hlt : s.trials.length < 2 ^ 64) :
    s.length? = some s.trials.length ∧ s.isEmpty? = some false ∧
      s.estimatedSecs? = some (s.secsOf s.trials.length) := by
  have hlength := length?_of_lt hlt
  refine ⟨hlength, ?_, ?_⟩
  · rw [isEmpty?, hlength, Option.map_some, beq_eq_false_iff_ne.mpr (Nat.ne_of_gt hpos)]
  · rw [estimatedSecs?, hlength, Option.map_some]

/-- Nothing, if they cannot. -/
theorem size_of_le (hle : 2 ^ 64 ≤ s.trials.length) :
    s.length? = none ∧ s.isEmpty? = none ∧ s.estimatedSecs? = none := by
  have hlength := s.length?_eq_none_iff.mpr hle
  refine ⟨hlength, ?_, ?_⟩
  · rw [isEmpty?, hlength, Option.map_none]
  · rw [estimatedSecs?, hlength, Option.map_none]

end Sweep

/-- **THE SIZE OF A SWEEP** under an accepted configuration: its count is the
    product of variants, thread counts, ratios and repetitions, it is not taken for
    empty, and its estimate is the product with the trials' length, up to the
    largest word — each of this exactly if the number of trials is a word, and
    otherwise the sweep has no count, no answer whether it is empty, and no estimate. -/
theorem size_exact_iff {raw : RawConfig} {overrides : Overrides} {config : Config}
    (hconfig : Settings.validate raw overrides = .ok config) {suite : Suite}
    (hsuite : suite ∈ config.catalog.suites) :
    let sweep : Sweep := ⟨suite, config.sweep⟩
    let product := suite.variants.length * config.sweep.threads.length
      * config.sweep.ratios.length * config.runs
    let estimate := min (config.sweep.duration.secs.toNat * product) (2 ^ 64 - 1)
    config.sweep.perVariant < 2 ^ 64 ∧
    (sweep.length? = some product ↔ product < 2 ^ 64) ∧
    (sweep.isEmpty? = some false ↔ product < 2 ^ 64) ∧
    (sweep.estimatedSecs? = some estimate ↔ product < 2 ^ 64) ∧
    (2 ^ 64 ≤ product →
      sweep.length? = none ∧ sweep.isEmpty? = none ∧ sweep.estimatedSecs? = none) := by
  intro sweep product estimate
  have hsound := Settings.validate_sound hconfig
  have hproduct : sweep.trials.length = product := config.length_suiteTrials suite
  have hpos : 0 < product := hsound.trials_pos hsuite
  refine ⟨hsound.perVariant_lt, ?_⟩
  by_cases hfit : product < 2 ^ 64
  · obtain ⟨hlength, hempty, hestimate⟩ :=
      Sweep.size_of_lt (hproduct ▸ hpos) (hproduct ▸ hfit)
    rw [hproduct] at hlength hestimate
    exact ⟨iff_of_true hlength hfit, iff_of_true hempty hfit, iff_of_true hestimate hfit,
      fun hle => absurd hle (Nat.not_le_of_lt hfit)⟩
  · obtain ⟨hlength, hempty, hestimate⟩ :=
      Sweep.size_of_le (s := sweep) (hproduct ▸ Nat.le_of_not_lt hfit)
    rw [hlength, hempty, hestimate]
    simp only [reduceCtorEq, hfit, implies_true, and_self]

/-- The built-in skip lists have four trials of twenty seconds. -/
theorem size_skiplists :
    let suite := skiplistConfig.catalog.suites.head (by decide)
    let sweep : Sweep := ⟨suite, skiplistConfig.sweep⟩
    Settings.validate {} skiplistOverrides = .ok skiplistConfig ∧
    suite ∈ skiplistConfig.catalog.suites ∧
    suite.variants.length * skiplistConfig.sweep.threads.length
      * skiplistConfig.sweep.ratios.length * skiplistConfig.runs = 4 ∧
    sweep.length? = some 4 ∧ sweep.isEmpty? = some false ∧ sweep.estimatedSecs? = some 80 := by
  intro suite sweep
  have hconfig : Settings.validate {} skiplistOverrides = .ok skiplistConfig := rfl
  have hsuite : suite ∈ skiplistConfig.catalog.suites := List.head_mem _
  have hproduct : suite.variants.length * skiplistConfig.sweep.threads.length
      * skiplistConfig.sweep.ratios.length * skiplistConfig.runs = 4 := rfl
  obtain ⟨-, hlength, hempty, hestimate, -⟩ := size_exact_iff hconfig hsuite
  rw [hproduct] at hlength hempty hestimate
  have hfit : 4 < 2 ^ 64 := by decide
  exact ⟨hconfig, hsuite, hproduct, hlength.mpr hfit, hempty.mpr hfit, hestimate.mpr hfit⟩

/-- Of an accepted configuration of `2 ^ 64` trials, each at least a second long, the sweep
    tells nothing. -/
theorem wide_sizeless :
    Settings.validate wideRaw wideOverrides = .ok wideConfig ∧
    wideSuite ∈ wideConfig.catalog.suites ∧
    wideSuite.variants.length * wideConfig.sweep.threads.length
      * wideConfig.sweep.ratios.length * wideConfig.runs = 2 ^ 64 ∧
    (Sweep.mk wideSuite wideConfig.sweep).length? = none ∧
    (Sweep.mk wideSuite wideConfig.sweep).isEmpty? = none ∧
    (Sweep.mk wideSuite wideConfig.sweep).estimatedSecs? = none ∧
    min (wideConfig.sweep.duration.secs.toNat * 2 ^ 64) (2 ^ 64 - 1) = 2 ^ 64 - 1 := by
  have hsweep : wideConfig.sweep = wideDimensions := rfl
  have htrials : wideSuite.variants.length * wideConfig.sweep.threads.length
      * wideConfig.sweep.ratios.length * wideConfig.runs = 2 ^ 64 := by
    rw [← wideConfig.length_suiteTrials, hsweep, length_wideTrials]
  obtain ⟨hlength, hempty, hestimate⟩ :=
    Sweep.size_of_le (s := ⟨wideSuite, wideConfig.sweep⟩) (hsweep ▸ length_wideTrials.ge)
  refine ⟨validate_wide, List.mem_cons_self, htrials, hlength, hempty, hestimate, ?_⟩
  have hsecs : wideConfig.sweep.duration.secs.toNat = 1 := rfl
  rw [hsecs]
  decide

end BenchSweep
