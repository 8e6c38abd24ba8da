import BenchSweep.Proofs.Run.Interrupted
import BenchSweep.Proofs.Settings.Criterion
import Mathlib.Data.List.FinRange
import Mathlib.Data.List.ProdSigma

/-! # Runs that cannot be counted

    The trials of a suite are counted before the first of them is run, and those of all
    suites as they are run, each by a 64-bit word.  If there are more, a run breaks off
    without a summary, whatever the interrupt does; so only if there are not, every run
    keeps just its complete cells (`keepsCompleteCells_iff_fits`). -/

namespace BenchSweep

/-! ## When runs keep just their complete cells -/

/-- A scenario in which nothing can be launched and nothing else goes wrong. -/
def Scenario.unlaunched : Scenario :=
  { ending := fun _ => .notLaunched ""
    finishes := fun _ h => nomatch h
    fired := fun _ => false
    stays := fun _ _ h => h
    strikes := fun _ _ => false
    struck := fun _ _ h => h
    headerFault? := none
    recordFault? := fun _ _ => none
    captureDir? := none
    captureFault? := fun _ _ => none }

/-- A configuration whose trials cannot be counted is not run to its end. -/
theorem Config.KeepsCompleteCells.fits {config : Config} (hkeeps : config.KeepsCompleteCells) :
    config.Fits := by
  obtain ⟨s, k, hrun, -⟩ := hkeeps Scenario.unlaunched ⟨rfl, fun _ _ => rfl⟩
  exact Scenario.fits_of_run (fun _ => rfl) hrun

/-- **WHENEVER THE INTERRUPT FIRES**, a run keeps just the cells it has completed:
    that holds of a configuration exactly if the number of all its trials is a
    64-bit word. -/
theorem keepsCompleteCells_iff_fits (config : Config) :
    config.KeepsCompleteCells ↔ config.Fits :=
  ⟨Config.KeepsCompleteCells.fits, Config.Fits.keepsCompleteCells⟩

/-- A first suite that cannot be counted breaks a run off right behind the header. -/
theorem Scenario.run_overflows {sc : Scenario} {config : Config} {suite : Suite}
    {suites : List Suite} (hsuites : config.catalog.suites = suite :: suites)
    (hcount : ¬ (Sweep.mk suite config.sweep).trials.length < 2 ^ 64)
    (hheader : sc.headerFault? = none) :
    sc.run config = (.error .overflow, sc.history config [] []) := by
  rw [run_taken hheader, hsuites, Bench.runSuites_cons, Bench.chain, bind_apply,
    runSuite_overflows hcount]
  rfl

/-! ## Plain settings -/

/-- A suite as written of which nothing but its name and variants is of interest. -/
def plainRawSuite (name : SuiteName) (variants : List Variant) : RawSuite :=
  { name := name.text
    variants := variants.map fun v => { name := v.name.text } }

/-- The suite that this makes. -/
def plainSuite (name : SuiteName) (variants : List Variant) : Suite :=
  { name
    executable := Path.join "bin" name.text
    encoding := .flags
    keys := none
    marker := defaultMarker
    variants }

/-- The configuration of such suites with the default runner. -/
def plainConfig (dims : Dimensions) (entries : List (SuiteName × List Variant)) : Config :=
  { sweep := dims
    runner := { binDir := "bin", workDir? := none, timeoutMultiplier := 3, minSuccesses := 1 }
    catalog := ⟨entries.map fun entry => plainSuite entry.1 entry.2⟩ }

/-- Variants that can be written down by their names alone. -/
structure PlainVariants (variants : List Variant) : Prop where
  ne_nil : variants ≠ []
  nodup  : (variants.map (·.name)).Nodup
  labels : ∀ v ∈ variants, v.label = ""

namespace Settings

theorem validateSuite_plain (name : SuiteName) {variants : List Variant}
    (hvariants : PlainVariants variants) :
    validateSuite "bin" (plainRawSuite name variants) = .ok (plainSuite name variants) := by
  have hvariant : ∀ v ∈ variants, validateVariant { name := v.name.text } = .ok v := by
    intro v hv
    rw [validateVariant_eq_ok_iff, hvariants.labels v hv]
  have hname : Name.ofString .suite name.text = .ok name := (Name.ofString_eq_ok_iff ..).mpr rfl
  have hmarker : validateMarker defaultMarker = .ok defaultMarker := rfl
  exact (validateSuite_eq_ok_iff _ _ _).mpr ⟨hname, rfl, mapM_map_eq_ok hvariant, hmarker, rfl,
    rfl, hvariants.ne_nil, hvariants.nodup⟩

/-- Lists that repeat nothing, written out, are accepted as they are. -/
theorem validate_plain {raw : RawConfig} {overrides : Overrides} {dims : Dimensions}
    {entries : List (SuiteName × List Variant)}
    (hsweep : raw.sweep.override overrides
      = { durationSecs := dims.duration.secs, runs := dims.runs.val,
          threads := dims.threads.map (·.val), ratios := dims.ratios.map (·.val) })
    (hrunner : raw.runner = {})
    (hsuites : raw.suites? = some (entries.map fun entry => plainRawSuite entry.1 entry.2))
    (hrequests : overrides.suites = [])
    (hthreads : dims.threads ≠ [] ∧ dims.threads.Nodup)
    (hratios : dims.ratios ≠ [] ∧ dims.ratios.Nodup)
    (hne : entries ≠ []) (hnames : (entries.map Prod.fst).Nodup)
    (hvariants : ∀ entry ∈ entries, PlainVariants entry.2) :
    validate raw overrides = .ok (plainConfig dims entries) := by
  have hdims : validateSweep (raw.sweep.override overrides) = .ok dims := by
    rw [validateSweep_eq_ok_iff, TrialDuration.ofSecs_eq_ok_iff, RunCount.ofWord_eq_ok_iff,
      mapM_eq_ok_iff_map ThreadCount.ofWord_eq_ok_iff, mapM_eq_ok_iff_map Permil.ofWord_eq_ok_iff,
      hsweep]
    exact ⟨rfl, rfl, rfl, rfl, hthreads, hratios⟩
  have hrunner' : validateRunner raw.runner dims.runs = .ok (plainConfig dims entries).runner := by
    rw [hrunner]
    exact (validateRunner_eq_ok_iff ..).mpr
      ⟨⟨by decide, by decide, dims.runs.toNat_pos⟩, rfl⟩
  have hlisted : (entries.map fun entry => plainRawSuite entry.1 entry.2).mapM (validateSuite "bin")
      = .ok (entries.map fun entry => plainSuite entry.1 entry.2) := by
    rw [mapM_eq_ok_iff, List.forall₂_map_left_iff, List.forall₂_map_right_iff, List.forall₂_same]
    exact fun entry hentry => validateSuite_plain entry.1 (hvariants entry hentry)
  have hcatalog : validateCatalog "bin" raw.suites? = .ok (plainConfig dims entries).catalog := by
    rw [hsuites, validateCatalog, hlisted]
    refine (Catalog.ofSuites_eq_ok_iff ..).mpr ⟨?_, ?_, rfl⟩
    · simpa using hne
    · rw [List.map_map]
      exact hnames
  have hselected : selectSuites (plainConfig dims entries).catalog overrides.suites
      = .ok (plainConfig dims entries).catalog := by
    rw [hrequests]
    rfl
  exact (validate_eq_ok_iff _ _ _).mpr ⟨hdims, hrunner', _, hcatalog, hselected⟩

end Settings

/-! ## Settings that cannot be counted -/

/-- A character that names may hold. -/
def nameDigit (i : Fin 64) : Char :=
  "ABCDEFGHIJKLMNOPQRSTUVWXYZabcdefghijklmnopqrstuvwxyz0123456789-_".toList.getD i 'A'

theorem nameDigit_plain : ∀ i, isNameChar (nameDigit i) = true := by decide +kernel

theorem nameDigit_injective : ∀ i j, nameDigit i = nameDigit j → i = j := by decide +kernel

/-- A name of two characters. -/
def twoDigits (ij : Fin 64 × Fin 64) : String := String.ofList [nameDigit ij.1, nameDigit ij.2]

theorem isName_twoDigits (ij : Fin 64 × Fin 64) : IsName (twoDigits ij) where
  nonempty := by
    intro h
    exact nomatch String.ofList_eq_empty_iff.mp h
  short := by
    have h₁ := (nameDigit ij.1).utf8Size_le_four
    have h₂ := (nameDigit ij.2).utf8Size_le_four
    rw [twoDigits, String.ofList_cons, String.ofList_cons, String.utf8ByteSize_append,
      String.utf8ByteSize_append, String.utf8ByteSize_singleton, String.utf8ByteSize_singleton]
    show _ + (_ + 0) ≤ 64
    omega
  plain := by
    rw [twoDigits, String.toList_ofList]
    simp [nameDigit_plain]

theorem twoDigits_injective {ij ij' : Fin 64 × Fin 64} (h : twoDigits ij = twoDigits ij') :
    ij = ij' := by
  obtain ⟨h₁, h⟩ := List.cons.inj (String.ofList_injective h)
  obtain ⟨h₂, -⟩ := List.cons.inj h
  exact Prod.ext (nameDigit_injective _ _ h₁) (nameDigit_injective _ _ h₂)

/-- The number after `i`, as a number of threads. -/
def threadsAfter (i : Fin 4096) : ThreadCount :=
  ⟨UInt32.ofNat (i + 1), by
    rw [UInt32.lt_iff_toNat_lt, UInt32.toNat_ofNat', Nat.mod_eq_of_lt (by omega)]
    exact Nat.succ_pos _⟩

/-- `i` parts per thousand. -/
def permilOf (i : Fin 512) : Permil :=
  ⟨UInt32.ofNat i, by
    rw [UInt32.le_iff_toNat_le, UInt32.toNat_ofNat', Nat.mod_eq_of_lt (by omega)]
    exact Nat.le_trans (Nat.le_of_lt i.isLt) (by decide)⟩

theorem threadsAfter_injective : Function.Injective threadsAfter := by
  intro i j h
  have hval : (UInt32.ofNat (i + 1)).toNat = (UInt32.ofNat (j + 1)).toNat :=
    congrArg (fun t : ThreadCount => t.val.toNat) h
  rw [UInt32.toNat_ofNat', UInt32.toNat_ofNat', Nat.mod_eq_of_lt (by omega),
    Nat.mod_eq_of_lt (by omega)] at hval
  exact Fin.ext (Nat.succ.inj hval)

theorem permilOf_injective : Function.Injective permilOf := by
  intro i j h
  have hval : (UInt32.ofNat i).toNat = (UInt32.ofNat j).toNat :=
    congrArg (fun r : Permil => r.val.toNat) h
  rw [UInt32.toNat_ofNat', UInt32.toNat_ofNat', Nat.mod_eq_of_lt (by omega),
    Nat.mod_eq_of_lt (by omega)] at hval
  exact Fin.ext hval

/-- Thread counts up to 4096. -/
def wideThreads : List ThreadCount := (List.finRange 4096).map threadsAfter

/-- Ratios up to 511 permil. -/
def wideRatios : List Permil := (List.finRange 512).map permilOf

/-- 4096 variants. -/
def wideVariants : List Variant :=
  (List.finRange 64 ×ˢ List.finRange 64).map fun ij =>
    { name := ⟨twoDigits ij, isName_twoDigits ij⟩, label := "" }

theorem length_wideThreads : wideThreads.length = 4096 := by
  rw [wideThreads, List.length_map, List.length_finRange]

theorem length_wideRatios : wideRatios.length = 512 := by
  rw [wideRatios, List.length_map, List.length_finRange]

theorem length_wideVariants : wideVariants.length = 4096 := by
  rw [wideVariants, List.length_map, List.length_product, List.length_finRange]

theorem wideThreads_ne_nil : wideThreads ≠ [] :=
  List.ne_nil_of_length_pos (by rw [length_wideThreads]; decide)

theorem wideRatios_ne_nil : wideRatios ≠ [] :=
  List.ne_nil_of_length_pos (by rw [length_wideRatios]; decide)

theorem wideVariants_ne_nil : wideVariants ≠ [] :=
  List.ne_nil_of_length_pos (by rw [length_wideVariants]; decide)

theorem nodup_wideThreads : wideThreads.Nodup :=
  (List.nodup_finRange 4096).map threadsAfter_injective

theorem nodup_wideRatios : wideRatios.Nodup :=
  (List.nodup_finRange 512).map permilOf_injective

theorem nodup_wideVariants : (wideVariants.map (·.name)).Nodup := by
  rw [wideVariants, List.map_map]
  refine ((List.nodup_finRange 64).product (List.nodup_finRange 64)).map ?_
  intro ij ij' h
  exact twoDigits_injective (congrArg Name.text h)

theorem label_wideVariants : ∀ v ∈ wideVariants, v.label = "" := by
  intro v hv
  obtain ⟨ij, -, rfl⟩ := List.mem_map.mp hv
  rfl

theorem plain_wideVariants : PlainVariants wideVariants where
  ne_nil := wideVariants_ne_nil
  nodup := nodup_wideVariants
  labels := label_wideVariants

/-- The name of a suite of these variants. -/
def wideName : SuiteName := ⟨"wide", by decide +kernel⟩

/-- The suite as written, with each cell repeated 2147483648 times. -/
def wideRaw : RawConfig :=
  { sweep := { durationSecs := 1, runs := 2147483648 }
    suites? := some [plainRawSuite wideName wideVariants] }

/-- These thread counts and ratios: altogether `2 ^ 64` trials. -/
def wideOverrides : Overrides :=
  { threads? := some (wideThreads.map (·.val)), ratios? := some (wideRatios.map (·.val)) }

/-- The dimensions that these settings make. -/
def wideDimensions : Dimensions :=
  { duration := ⟨1, by decide, by decide⟩
    runs := ⟨2147483648, by decide⟩
    threads := wideThreads
    ratios := wideRatios }

/-- The suite that these settings make. -/
def wideSuite : Suite := plainSuite wideName wideVariants

/-- The configuration that these settings make. -/
def wideConfig : Config := plainConfig wideDimensions [(wideName, wideVariants)]

/-- The dimensions are accepted as they are, along with any plain suites. -/
theorem validate_wideDimensions {raw : RawConfig} {entries : List (SuiteName × List Variant)}
    (hsweep : raw.sweep = wideRaw.sweep) (hrunner : raw.runner = {})
    (hsuites : raw.suites? = some (entries.map fun entry => plainRawSuite entry.1 entry.2))
    (hne : entries ≠ []) (hnames : (entries.map Prod.fst).Nodup)
    (hvariants : ∀ entry ∈ entries, PlainVariants entry.2) :
    Settings.validate raw wideOverrides = .ok (plainConfig wideDimensions entries) := by
  have hoverridden : raw.sweep.override wideOverrides
      = { durationSecs := wideDimensions.duration.secs, runs := wideDimensions.runs.val,
          threads := wideDimensions.threads.map (·.val),
          ratios := wideDimensions.ratios.map (·.val) } := by
    rw [hsweep, RawSweep.override, wideRaw, wideOverrides, wideDimensions]
    dsimp only [Option.getD_some, Option.getD_none]
  have hrequests : wideOverrides.suites = [] := by
    rw [wideOverrides]
  have hthreads : wideDimensions.threads ≠ [] ∧ wideDimensions.threads.Nodup := by
    dsimp only [wideDimensions]
    exact ⟨wideThreads_ne_nil, nodup_wideThreads⟩
  have hratios : wideDimensions.ratios ≠ [] ∧ wideDimensions.ratios.Nodup := by
    dsimp only [wideDimensions]
    exact ⟨wideRatios_ne_nil, nodup_wideRatios⟩
  exact Settings.validate_plain hoverridden hrunner hsuites hrequests hthreads hratios hne hnames
    hvariants

/-- The settings are accepted. -/
theorem validate_wide : Settings.validate wideRaw wideOverrides = .ok wideConfig := by
  refine validate_wideDimensions rfl rfl rfl (List.cons_ne_nil _ _) (List.nodup_singleton _) ?_
  intro entry hentry
  rw [List.mem_singleton.mp hentry]
  exact plain_wideVariants

theorem length_wideTrials : (Sweep.mk wideSuite wideDimensions).trials.length = 2 ^ 64 := by
  rw [Sweep.length_trials, Dimensions.perVariant, wideSuite, plainSuite, wideDimensions]
  dsimp only
  rw [length_wideVariants, length_wideThreads, length_wideRatios]
  rfl

/-- A scenario whose interrupt has fired before the run. -/
def Scenario.firedBefore : Scenario :=
  { Scenario.unlaunched with
    fired := fun _ => true
    stays := fun _ _ _ => rfl
    struck := fun _ _ _ => rfl }

/-- The interrupt has fired before the first of `2 ^ 64` trials, and still the run returns
    no summary: it breaks off when it counts them. -/
theorem wide_breaks_off :
    Settings.validate wideRaw wideOverrides = .ok wideConfig ∧
    Scenario.firedBefore.Accepts ∧ Scenario.firedBefore.fired [] = true ∧
    wideConfig.trials.length = 2 ^ 64 ∧
    Scenario.firedBefore.run wideConfig
      = (.error .overflow, [.header wideConfig.sweep [wideSuite.name] true]) ∧
    ¬ wideConfig.KeepsCompleteCells := by
  have hsuites : wideConfig.catalog.suites = [wideSuite] := rfl
  have htrials : wideConfig.trials.length = 2 ^ 64 := by
    rw [Config.trials, Config.sweeps, hsuites, List.map_singleton, List.flatMap_singleton]
    exact length_wideTrials
  have hcount : ¬ (Sweep.mk wideSuite wideConfig.sweep).trials.length < 2 ^ 64 := by
    rw [show wideConfig.sweep = wideDimensions from rfl, length_wideTrials]
    exact Nat.lt_irrefl _
  refine ⟨validate_wide, ⟨rfl, fun _ _ => rfl⟩, rfl, htrials, ?_, ?_⟩
  · exact Scenario.run_overflows hsuites hcount rfl
  · intro hkeeps
    exact Nat.lt_irrefl _ (htrials ▸ (Config.fits_iff _).mp hkeeps.fits)

end BenchSweep
