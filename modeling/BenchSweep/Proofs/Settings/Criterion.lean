import BenchSweep.Proofs.Settings.Accepted
import Mathlib.Data.Set.List

/-! # The criterion of acceptance

    Settings are checked by a dozen functions, and the first fault ends it.  What
    all of them together ask for is said here at once, of the settings as they are
    written (`Settings.Acceptable`), and so is what an accepted configuration holds
    (`Config.Holds`).  Every check has one lemma of the same form: it lets a result
    pass exactly if the criterion is met and the result holds what is written.
    `Settings.validate_accepts_iff_acceptable` puts them together. -/

namespace BenchSweep

/-- A text of 1 to 64 bytes, all of them ASCII letters, digits, hyphens or
    underscores. -/
def WellNamed (text : String) : Prop :=
  1 ≤ text.utf8ByteSize ∧ text.utf8ByteSize ≤ 64 ∧
    ∀ c ∈ text.toList, c.isAlphanum = true ∨ c = '-' ∨ c = '_'

/-- A sweep as written whose numbers are in their ranges and whose lists hold
    something, and nothing twice. -/
structure RawSweep.Acceptable (raw : RawSweep) : Prop where
  duration_pos : 1 ≤ raw.durationSecs.toNat
  duration_le : raw.durationSecs.toNat ≤ 604800
  runs_pos : 1 ≤ raw.runs.toNat
  threads_ne : raw.threads ≠ []
  threads_pos : ∀ t ∈ raw.threads, 1 ≤ t.toNat
  nodup_threads : raw.threads.Nodup
  ratios_ne : raw.ratios ≠ []
  ratios_le : ∀ r ∈ raw.ratios, r.toNat ≤ 1000
  nodup_ratios : raw.ratios.Nodup

/-- Runner settings that leave trials their time, and ask for at least one success
    and for no more than there are repetitions. -/
structure RawRunner.Acceptable (raw : RawRunner) (runs : Nat) : Prop where
  multiplier_pos : 1 ≤ raw.timeoutMultiplier.toNat
  minSuccesses_pos : 1 ≤ raw.minSuccesses.toNat
  minSuccesses_le : raw.minSuccesses.toNat ≤ runs

/-- A suite as written with well-formed names, variants of different names, and
    neither an empty executable nor a blank marker. -/
structure RawSuite.Acceptable (raw : RawSuite) : Prop where
  name : WellNamed raw.name
  executable : raw.executable? ≠ some ""
  marker : ∀ m, raw.marker? = some m → ∃ c ∈ m.toList, Text.isBlank c = false
  variants_ne : raw.variants ≠ []
  variant_names : ∀ v ∈ raw.variants, WellNamed v.name
  nodup_variants : (raw.variants.map (·.name)).Nodup

/-- What a sweep as written makes. -/
structure Dimensions.Holds (dims : Dimensions) (raw : RawSweep) : Prop where
  duration : dims.duration.secs = raw.durationSecs
  runs : dims.runs.val = raw.runs
  threads : dims.threads.map (·.val) = raw.threads
  ratios : dims.ratios.map (·.val) = raw.ratios

/-- What a suite as written makes; its executable has its name if none is written. -/
structure Suite.Holds (suite : Suite) (binDir : String) (raw : RawSuite) : Prop where
  name : suite.name.text = raw.name
  executable : suite.executable = Path.join binDir (raw.executable?.getD raw.name)
  encoding : suite.encoding = raw.encoding
  keys : suite.keys = raw.keys?
  marker : suite.marker = raw.marker?.getD defaultMarker
  variants : suite.variants.map (fun v => (⟨v.name.text, v.label⟩ : RawVariant)) = raw.variants

namespace Settings

/-- The names of the suites that are written, or of the built-in ones. -/
def suiteNames : Option (List RawSuite) → List String
  | none     => ["set-ll-1k", "set-tree-1m", "set-skiplist-1m"]
  | some raw => raw.map (·.name)

/-- Suites as written, if any are: not none, each acceptable, all names different. -/
def SuitesAcceptable : Option (List RawSuite) → Prop
  | none     => True
  | some raw => raw ≠ [] ∧ (raw.map (·.name)).Nodup ∧ ∀ s ∈ raw, s.Acceptable

/-- What suites as written make; without any these are the built-in ones. -/
def SuitesHold (suites : List Suite) (binDir : String) : Option (List RawSuite) → Prop
  | none     => suites = (Catalog.builtin binDir).suites
  | some raw => List.Forall₂ (fun r s => Suite.Holds s binDir r) raw suites

/-- **THE CRITERION**: a sweep, runner settings and suites that are acceptable, and
    no request for a suite that there is not. -/
structure Acceptable (raw : RawConfig) (overrides : Overrides) : Prop where
  sweep : (raw.sweep.override overrides).Acceptable
  runner : raw.runner.Acceptable (raw.sweep.override overrides).runs.toNat
  suites : SuitesAcceptable raw.suites?
  requests : ∀ name ∈ overrides.suites, name ∈ suiteNames raw.suites?

end Settings

/-- What settings make: all that is written, and of the suites those that are asked
    for, in the order of the catalog.  Without a request that is all of them. -/
structure Config.Holds (config : Config) (raw : RawConfig) (overrides : Overrides) : Prop where
  sweep : config.sweep.Holds (raw.sweep.override overrides)
  binDir : config.runner.binDir = raw.runner.binDir
  workDir : config.runner.workDir? = raw.runner.workDir?
  multiplier : config.runner.timeoutMultiplier = raw.runner.timeoutMultiplier
  minSuccesses : config.runner.minSuccesses = raw.runner.minSuccesses
  catalog : ∃ suites, Settings.SuitesHold suites raw.runner.binDir raw.suites? ∧
    config.catalog.suites
      = suites.filter fun s => overrides.suites = [] ∨ s.name.text ∈ overrides.suites
  catalog_ne : config.catalog.suites ≠ []

/-! ## Single values

    A checked value carries the proof that it has passed its check: there is one for
    every value that passes, and the check lets pass just what is written. -/

section Checked

variable {ω α : Type} {p : ω → Prop} (make : ∀ n, p n → α) {val : α → ω}
  (hval : ∀ n h, val (make n h) = n) (hmake : ∀ x, ∃ h, make (val x) h = x)

include hval hmake

/-- The values that there are. -/
theorem exists_checked_iff (n : ω) : (∃ x, val x = n) ↔ p n := by
  constructor
  · rintro ⟨x, rfl⟩
    exact (hmake x).1
  · intro h
    exact ⟨make n h, hval n h⟩

/-- The check that makes them. -/
theorem check_eq_ok_iff [DecidablePred p] (n : ω) (fault : Fault) (x : α) :
    (if h : p n then Except.ok (make n h) else Except.error fault) = .ok x ↔ val x = n := by
  constructor
  · intro h
    split at h
    · obtain rfl := Except.ok.inj h
      exact hval _ _
    · exact nomatch h
  · rintro rfl
    obtain ⟨h, hx⟩ := hmake x
    rw [dif_pos h, hx]

end Checked

theorem RunCount.ofWord_eq_ok_iff (n : UInt32) (runs : RunCount) :
    RunCount.ofWord n = .ok runs ↔ runs.val = n :=
  check_eq_ok_iff RunCount.mk (fun _ _ => rfl) (fun runs => ⟨runs.positive, rfl⟩) n _ runs

theorem RunCount.exists_val_iff (n : UInt32) :
    (∃ runs : RunCount, runs.val = n) ↔ 1 ≤ n.toNat :=
  (exists_checked_iff RunCount.mk (fun _ _ => rfl) (fun runs => ⟨runs.positive, rfl⟩) n).trans
    UInt32.lt_iff_toNat_lt

theorem ThreadCount.ofWord_eq_ok_iff (n : UInt32) (t : ThreadCount) :
    ThreadCount.ofWord n = .ok t ↔ t.val = n :=
  check_eq_ok_iff ThreadCount.mk (fun _ _ => rfl) (fun t => ⟨t.positive, rfl⟩) n _ t

theorem ThreadCount.val_injective : Function.Injective ThreadCount.val := by
  rintro ⟨val, _⟩ ⟨val', _⟩ rfl
  rfl

theorem ThreadCount.exists_val_iff (n : UInt32) :
    (∃ t : ThreadCount, t.val = n) ↔ 1 ≤ n.toNat :=
  (exists_checked_iff ThreadCount.mk (fun _ _ => rfl) (fun t => ⟨t.positive, rfl⟩) n).trans
    UInt32.lt_iff_toNat_lt

theorem Permil.ofWord_eq_ok_iff (n : UInt32) (r : Permil) :
    Permil.ofWord n = .ok r ↔ r.val = n :=
  check_eq_ok_iff Permil.mk (fun _ _ => rfl) (fun r => ⟨r.le_thousand, rfl⟩) n _ r

theorem Permil.val_injective : Function.Injective Permil.val := by
  rintro ⟨val, _⟩ ⟨val', _⟩ rfl
  rfl

theorem Permil.exists_val_iff (n : UInt32) :
    (∃ r : Permil, r.val = n) ↔ n.toNat ≤ 1000 :=
  (exists_checked_iff Permil.mk (fun _ _ => rfl) (fun r => ⟨r.le_thousand, rfl⟩) n).trans
    UInt32.le_iff_toNat_le

theorem Name.ofString_eq_ok_iff (role : Role) (text : String) (name : Name role) :
    Name.ofString role text = .ok name ↔ name.text = text :=
  check_eq_ok_iff Name.mk (fun _ _ => rfl) (fun name => ⟨name.valid, rfl⟩) text _ name

theorem isName_iff_wellNamed (text : String) : IsName text ↔ WellNamed text := by
  have hsize : text ≠ "" ↔ 1 ≤ text.utf8ByteSize := by
    rw [Nat.one_le_iff_ne_zero, ne_eq, ne_eq, String.utf8ByteSize_eq_zero_iff]
  have hchar : ∀ c, isNameChar c = true ↔ c.isAlphanum = true ∨ c = '-' ∨ c = '_' := by
    intro c
    simp only [isNameChar, Bool.or_eq_true, beq_iff_eq, or_assoc]
  constructor
  · rintro ⟨hne, hle, hall⟩
    exact ⟨hsize.mp hne, hle, fun c hc => (hchar c).mp (List.all_eq_true.mp hall c hc)⟩
  · rintro ⟨hpos, hle, hall⟩
    exact ⟨hsize.mpr hpos, hle, List.all_eq_true.mpr fun c hc => (hchar c).mpr (hall c hc)⟩

theorem Name.text_injective {role : Role} :
    Function.Injective (Name.text : Name role → String) :=
  fun _ _ => Name.ext

theorem Name.isNameChar_of_mem {role : Role} {name : Name role} {c : Char}
    (hc : c ∈ name.text.toList) : isNameChar c = true :=
  List.all_eq_true.mp name.valid.plain c hc

theorem Name.exists_text_iff (role : Role) (text : String) :
    (∃ name : Name role, name.text = text) ↔ WellNamed text :=
  (exists_checked_iff Name.mk (fun _ _ => rfl) (fun name => ⟨name.valid, rfl⟩) text).trans
    (isName_iff_wellNamed text)

theorem TrialDuration.ofSecs_eq_ok_iff (n : UInt64) (d : TrialDuration) :
    TrialDuration.ofSecs n = .ok d ↔ d.secs = n := by
  rw [ofSecs]
  constructor
  · intro h
    split at h
    · split at h
      · exact (congrArg TrialDuration.secs (Except.ok.inj h)).symm
      · exact nomatch h
    · exact nomatch h
  · rintro rfl
    rw [dif_pos d.positive, dif_pos d.le_week]

theorem TrialDuration.exists_secs_iff (n : UInt64) :
    (∃ d : TrialDuration, d.secs = n) ↔ 1 ≤ n.toNat ∧ n.toNat ≤ 604800 := by
  have hpos : 0 < n ↔ 1 ≤ n.toNat := UInt64.lt_iff_toNat_lt
  have hle : n ≤ maxTrialSecs ↔ n.toNat ≤ 604800 := UInt64.le_iff_toNat_le
  rw [← hpos, ← hle]
  constructor
  · rintro ⟨d, rfl⟩
    exact ⟨d.positive, d.le_week⟩
  · rintro ⟨hpos, hle⟩
    exact ⟨⟨n, hpos, hle⟩, rfl⟩

/-! ## Lists of values -/

/-- Checking a list whose single checks let pass what is written. -/
theorem mapM_eq_ok_iff_map {ε α β : Type} {f : α → Except ε β} {g : β → α}
    (hf : ∀ x y, f x = .ok y ↔ g y = x) (xs : List α) (ys : List β) :
    xs.mapM f = .ok ys ↔ ys.map g = xs := by
  rw [mapM_eq_ok_iff, eq_comm (b := xs), ← List.forall₂_eq_eq_eq, List.forall₂_map_right_iff]
  simp only [hf, eq_comm]

/-- A list is made of values that there are if each of its entries is. -/
theorem exists_map_eq_iff {α β : Type} (g : β → α) (xs : List α) :
    (∃ ys : List β, ys.map g = xs) ↔ ∀ x ∈ xs, ∃ y, g y = x :=
  Set.ext_iff.mp (Set.range_list_map g) xs

namespace Settings

/-! ## The sweep -/

/-- What holds a sweep as written meets the criterion if its lists do. -/
theorem sweep_acceptable_iff {raw : RawSweep} {dims : Dimensions} (hholds : dims.Holds raw) :
    raw.Acceptable ↔
      (dims.threads ≠ [] ∧ dims.threads.Nodup) ∧ dims.ratios ≠ [] ∧ dims.ratios.Nodup := by
  obtain ⟨durationSecs, runs, threads, ratios⟩ := raw
  obtain ⟨rfl, rfl, rfl, rfl⟩ := hholds
  have hthreads : (dims.threads.map (·.val)).Nodup ↔ dims.threads.Nodup :=
    List.nodup_map_iff ThreadCount.val_injective
  have hratios : (dims.ratios.map (·.val)).Nodup ↔ dims.ratios.Nodup :=
    List.nodup_map_iff Permil.val_injective
  constructor
  · rintro ⟨-, -, -, hne, -, hnodup, hne', -, hnodup'⟩
    exact ⟨⟨fun h => hne (by simp [h]), hthreads.mp hnodup⟩, fun h => hne' (by simp [h]),
      hratios.mp hnodup'⟩
  · rintro ⟨⟨hne, hnodup⟩, hne', hnodup'⟩
    obtain ⟨hpos, hle⟩ := (TrialDuration.exists_secs_iff _).mp ⟨dims.duration, rfl⟩
    refine ⟨hpos, hle, (RunCount.exists_val_iff _).mp ⟨dims.runs, rfl⟩, by simpa using hne, ?_,
      hthreads.mpr hnodup, by simpa using hne', ?_, hratios.mpr hnodup'⟩
    · intro n hn
      obtain ⟨t, -, rfl⟩ := List.mem_map.mp hn
      exact (ThreadCount.exists_val_iff _).mp ⟨t, rfl⟩
    · intro n hn
      obtain ⟨r, -, rfl⟩ := List.mem_map.mp hn
      exact (Permil.exists_val_iff _).mp ⟨r, rfl⟩

theorem validateSweep_eq_ok_iff_holds (raw : RawSweep) (dims : Dimensions) :
    validateSweep raw = .ok dims ↔ raw.Acceptable ∧ dims.Holds raw := by
  rw [validateSweep_eq_ok_iff, TrialDuration.ofSecs_eq_ok_iff, RunCount.ofWord_eq_ok_iff,
    mapM_eq_ok_iff_map ThreadCount.ofWord_eq_ok_iff, mapM_eq_ok_iff_map Permil.ofWord_eq_ok_iff]
  constructor
  · rintro ⟨hduration, hruns, hthreads, hratios, hlists⟩
    have hholds : dims.Holds raw := ⟨hduration, hruns, hthreads, hratios⟩
    exact ⟨(sweep_acceptable_iff hholds).mpr hlists, hholds⟩
  · rintro ⟨hacceptable, hholds⟩
    exact ⟨hholds.duration, hholds.runs, hholds.threads, hholds.ratios,
      (sweep_acceptable_iff hholds).mp hacceptable⟩

theorem exists_dimensions {raw : RawSweep} (h : raw.Acceptable) :
    ∃ dims : Dimensions, dims.Holds raw := by
  obtain ⟨duration, hduration⟩ :=
    (TrialDuration.exists_secs_iff _).mpr ⟨h.duration_pos, h.duration_le⟩
  obtain ⟨runs, hruns⟩ := (RunCount.exists_val_iff _).mpr h.runs_pos
  obtain ⟨threads, hthreads⟩ := (exists_map_eq_iff ThreadCount.val raw.threads).mpr fun t ht =>
    (ThreadCount.exists_val_iff t).mpr (h.threads_pos t ht)
  obtain ⟨ratios, hratios⟩ := (exists_map_eq_iff Permil.val raw.ratios).mpr fun r hr =>
    (Permil.exists_val_iff r).mpr (h.ratios_le r hr)
  exact ⟨⟨duration, runs, threads, ratios⟩, hduration, hruns, hthreads, hratios⟩

/-! ## The runner -/

theorem validateRunner_eq_ok_iff (raw : RawRunner) (runs : RunCount)
    (runner : RunnerSettings) :
    validateRunner raw runs = .ok runner ↔ raw.Acceptable runs.val.toNat ∧
      runner = ⟨raw.binDir, raw.workDir?, raw.timeoutMultiplier, raw.minSuccesses⟩ := by
  have hmultiplier : raw.timeoutMultiplier = 0 ↔ ¬ 1 ≤ raw.timeoutMultiplier.toNat := by
    rw [← UInt32.toNat_inj, UInt32.toNat_zero]
    omega
  have hrange : raw.minSuccesses = 0 ∨ runs.val < raw.minSuccesses ↔
      ¬ (1 ≤ raw.minSuccesses.toNat ∧ raw.minSuccesses.toNat ≤ runs.val.toNat) := by
    rw [← UInt32.toNat_inj, UInt32.toNat_zero, UInt32.lt_iff_toNat_lt]
    omega
  rw [validateRunner]
  constructor
  · intro h
    split at h
    · cases h
    · next hm =>
        split at h
        · cases h
        · next hr =>
            obtain ⟨hpos, hle⟩ := not_not.mp (mt hrange.mpr hr)
            exact ⟨⟨not_not.mp (mt hmultiplier.mpr hm), hpos, hle⟩, (Except.ok.inj h).symm⟩
  · rintro ⟨⟨hm, hpos, hle⟩, rfl⟩
    rw [if_neg (mt hmultiplier.mp (not_not.mpr hm)),
      if_neg (mt hrange.mp (not_not.mpr ⟨hpos, hle⟩))]

/-! ## Suites -/

theorem validateExecutable_eq_ok_iff (name : SuiteName) (binDir : String)
    (executable? : Option String) (path : String) :
    validateExecutable name binDir executable? = .ok path ↔
      executable? ≠ some "" ∧ path = Path.join binDir (executable?.getD name.text) := by
  cases executable? with
  | none => simp [validateExecutable, eq_comm]
  | some executable =>
      by_cases h : executable = ""
      · simp [validateExecutable, h]
      · simp [validateExecutable, h, eq_comm]

theorem validateVariant_eq_ok_iff (raw : RawVariant) (v : Variant) :
    validateVariant raw = .ok v ↔ ⟨v.name.text, v.label⟩ = raw := by
  rw [validateVariant, bind_eq_ok_iff]
  obtain ⟨name, label⟩ := raw
  constructor
  · rintro ⟨name', hname, h⟩
    obtain rfl := Except.ok.inj h
    rw [RawVariant.mk.injEq]
    exact ⟨(Name.ofString_eq_ok_iff _ _ _).mp hname, rfl⟩
  · intro h
    obtain ⟨hname, rfl⟩ := RawVariant.mk.inj h
    exact ⟨v.name, (Name.ofString_eq_ok_iff _ _ _).mpr hname, rfl⟩

theorem validateMarker_eq_ok_iff (raw marker : String) :
    validateMarker raw = .ok marker ↔
      (∃ c ∈ raw.toList, Text.isBlank c = false) ∧ marker = raw := by
  have hblank : Text.allBlank raw.toList = true ↔ ¬ ∃ c ∈ raw.toList, Text.isBlank c = false := by
    simp [Text.allBlank]
  rw [validateMarker]
  constructor
  · intro h
    split at h
    · exact nomatch h
    · next hm => exact ⟨not_not.mp (mt hblank.mpr hm), (Except.ok.inj h).symm⟩
  · rintro ⟨hvisible, rfl⟩
    rw [if_neg (mt hblank.mp (not_not.mpr hvisible))]

/-- The marker that is used in place of a missing one is not blank. -/
theorem marker_visible_iff (marker? : Option String) :
    (∃ c ∈ (marker?.getD defaultMarker).toList, Text.isBlank c = false) ↔
      ∀ m, marker? = some m → ∃ c ∈ m.toList, Text.isBlank c = false := by
  cases marker? with
  | none =>
      have hdefault : ∃ c ∈ defaultMarker.toList, Text.isBlank c = false :=
        ⟨'O', List.mem_cons_self, rfl⟩
      constructor
      · intro _ m h
        exact nomatch h
      · intro _
        exact hdefault
  | some m =>
      constructor
      · intro h m' hm
        rw [← Option.some.inj hm]
        exact h
      · intro h
        exact h m rfl

/-- The variants of a suite have different names if they are written with different
    names. -/
theorem nodup_names_iff {raw : List RawVariant} {variants : List Variant}
    (h : variants.map (fun v => (⟨v.name.text, v.label⟩ : RawVariant)) = raw) :
    (raw.map (·.name)).Nodup ↔ (variants.map (·.name)).Nodup := by
  have htexts : raw.map (·.name) = (variants.map (·.name)).map Name.text := by
    rw [← h, List.map_map, List.map_map]
    rfl
  rw [htexts]
  exact List.nodup_map_iff Name.text_injective

theorem validateSuite_eq_ok_iff_holds (binDir : String) (raw : RawSuite) (suite : Suite) :
    validateSuite binDir raw = .ok suite ↔ raw.Acceptable ∧ suite.Holds binDir raw := by
  rw [validateSuite_eq_ok_iff, Name.ofString_eq_ok_iff, validateExecutable_eq_ok_iff,
    mapM_eq_ok_iff_map validateVariant_eq_ok_iff, validateMarker_eq_ok_iff, marker_visible_iff]
  constructor
  · rintro ⟨hname, ⟨hexecutable, hpath⟩, hvariants, ⟨hvisible, hmarker⟩, hencoding, hkeys, hne,
      hnodup⟩
    rw [hname] at hpath
    refine ⟨⟨(Name.exists_text_iff .suite _).mp ⟨_, hname⟩, hexecutable, hvisible, ?_, ?_,
      (nodup_names_iff hvariants).mpr hnodup⟩,
      ⟨hname, hpath, hencoding, hkeys, hmarker, hvariants⟩⟩
    · rw [← hvariants]
      simpa using hne
    · intro v hv
      obtain ⟨v', rfl⟩ := (exists_map_eq_iff _ _).mp ⟨_, hvariants⟩ v hv
      exact (Name.exists_text_iff .variant _).mp ⟨v'.name, rfl⟩
  · rintro ⟨hacceptable, hname, hpath, hencoding, hkeys, hmarker, hvariants⟩
    have hne : suite.variants ≠ [] := by
      intro h
      rw [h] at hvariants
      exact hacceptable.variants_ne hvariants.symm
    rw [← hname] at hpath
    exact ⟨hname, ⟨hacceptable.executable, hpath⟩, hvariants, ⟨hacceptable.marker, hmarker⟩,
      hencoding, hkeys, hne, (nodup_names_iff hvariants).mp hacceptable.nodup_variants⟩

theorem exists_suite (binDir : String) {raw : RawSuite} (h : raw.Acceptable) :
    ∃ suite : Suite, suite.Holds binDir raw := by
  obtain ⟨name, hname⟩ := (Name.exists_text_iff .suite _).mpr h.name
  have hvariant : ∀ v ∈ raw.variants,
      ∃ v' : Variant, (⟨v'.name.text, v'.label⟩ : RawVariant) = v := by
    intro v hv
    obtain ⟨name', hname'⟩ := (Name.exists_text_iff .variant _).mpr (h.variant_names v hv)
    exact ⟨⟨name', v.label⟩, by rw [hname']⟩
  obtain ⟨variants, hvariants⟩ := (exists_map_eq_iff _ _).mpr hvariant
  exact ⟨⟨name, _, _, _, _, variants⟩, hname, rfl, rfl, rfl, rfl, hvariants⟩

/-! ## The catalog -/

/-- Suites have the names that are written. -/
theorem map_name_of_suitesHold {suites : List Suite} {binDir : String}
    {raw? : Option (List RawSuite)} (h : SuitesHold suites binDir raw?) :
    suites.map (·.name.text) = suiteNames raw? := by
  cases raw? with
  | none =>
      rw [SuitesHold] at h
      rw [h]
      rfl
  | some raw =>
      rw [SuitesHold] at h
      rw [suiteNames]
      induction h with
      | nil => rfl
      | cons hr _ ih => rw [List.map_cons, List.map_cons, ih, hr.name]

/-- There are suites, and their names differ, if that is so as they are written. -/
theorem suites_listed_iff {suites : List Suite} {binDir : String} {raw : List RawSuite}
    (h : SuitesHold suites binDir (some raw)) :
    suites ≠ [] ∧ (suites.map (·.name)).Nodup ↔ raw ≠ [] ∧ (raw.map (·.name)).Nodup := by
  have hnames : (suites.map (·.name)).map Name.text = raw.map (·.name) := by
    rw [List.map_map]
    exact map_name_of_suitesHold h
  have hnil : suites = [] ↔ raw = [] := by
    rw [← List.map_eq_nil_iff (f := (·.name)), ← List.map_eq_nil_iff (f := Name.text), hnames,
      List.map_eq_nil_iff]
  rw [← hnames, List.nodup_map_iff Name.text_injective, ne_eq, ne_eq, hnil]

theorem validateCatalog_eq_ok_iff (binDir : String) (raw? : Option (List RawSuite))
    (catalog : Catalog) :
    validateCatalog binDir raw? = .ok catalog ↔
      SuitesAcceptable raw? ∧ SuitesHold catalog.suites binDir raw? := by
  obtain ⟨suites⟩ := catalog
  cases raw? with
  | none => simp [validateCatalog, SuitesAcceptable, SuitesHold, Catalog.builtin, eq_comm]
  | some raw =>
      have hchecked : raw.mapM (validateSuite binDir) = .ok suites ↔
          (∀ r ∈ raw, r.Acceptable) ∧ SuitesHold suites binDir (some raw) := by
        rw [mapM_eq_ok_iff]
        simp only [validateSuite_eq_ok_iff_holds, List.forall₂_and_left, SuitesHold]
      have hcatalog : validateCatalog binDir (some raw) = .ok ⟨suites⟩ ↔
          raw.mapM (validateSuite binDir) = .ok suites ∧
            suites ≠ [] ∧ (suites.map (·.name)).Nodup := by
        rw [validateCatalog, bind_eq_ok_iff]
        simp [Catalog.ofSuites_eq_ok_iff]
      rw [hcatalog, hchecked]
      constructor
      · rintro ⟨⟨hall, hholds⟩, hlisted⟩
        obtain ⟨hne, hnodup⟩ := (suites_listed_iff hholds).mp hlisted
        exact ⟨⟨hne, hnodup, hall⟩, hholds⟩
      · rintro ⟨⟨hne, hnodup, hall⟩, hholds⟩
        exact ⟨⟨hall, hholds⟩, (suites_listed_iff hholds).mpr ⟨hne, hnodup⟩⟩

theorem exists_suites (binDir : String) {raw? : Option (List RawSuite)}
    (h : SuitesAcceptable raw?) : ∃ suites, SuitesHold suites binDir raw? := by
  cases raw? with
  | none => exact ⟨_, rfl⟩
  | some raw =>
      obtain ⟨-, -, hall⟩ := h
      induction raw with
      | nil => exact ⟨[], .nil⟩
      | cons r raw ih =>
          obtain ⟨suite, hsuite⟩ := exists_suite binDir (hall r List.mem_cons_self)
          obtain ⟨suites, hsuites⟩ := ih fun r' hr' => hall r' (List.mem_cons_of_mem _ hr')
          exact ⟨suite :: suites, .cons hsuite hsuites⟩

/-! ## The selection -/

theorem selectSuites_eq_ok_iff (catalog selected : Catalog) (names : List String) :
    selectSuites catalog names = .ok selected ↔
      (∀ name ∈ names, name ∈ catalog.suites.map (·.name.text)) ∧
        selected.suites
          = catalog.suites.filter fun s => names = [] ∨ s.name.text ∈ names := by
  obtain ⟨suites⟩ := catalog
  obtain ⟨suites'⟩ := selected
  cases names with
  | nil => simp [selectSuites, eq_comm]
  | cons n ns =>
      rw [selectSuites, if_neg (by simp), Catalog.select_eq_ok_iff]
      simp [Catalog.suiteNames]

/-- A selection by names that there are is not empty. -/
theorem selection_ne_nil {suites : List Suite} {names : List String} (hne : suites ≠ [])
    (hknown : ∀ name ∈ names, name ∈ suites.map (·.name.text)) :
    suites.filter (fun s => names = [] ∨ s.name.text ∈ names) ≠ [] := by
  cases names with
  | nil => simpa using hne
  | cons n ns =>
      obtain ⟨s, hs, hname⟩ := List.mem_map.mp (hknown n List.mem_cons_self)
      refine List.ne_nil_of_mem (List.mem_filter.mpr ⟨hs, ?_⟩)
      simp [hname]

/-- Acceptable suites are not none. -/
theorem suites_ne_nil {suites : List Suite} {binDir : String} {raw? : Option (List RawSuite)}
    (hacceptable : SuitesAcceptable raw?) (hholds : SuitesHold suites binDir raw?) :
    suites ≠ [] := by
  cases raw? with
  | none =>
      rw [SuitesHold] at hholds
      rw [hholds]
      exact List.cons_ne_nil _ _
  | some raw =>
      exact ((suites_listed_iff hholds).mpr ⟨hacceptable.1, hacceptable.2.1⟩).1

/-! ## All settings -/

/-- What passes all checks meets the criterion and holds what is written, and
    nothing else does. -/
theorem validate_eq_ok_iff_holds (raw : RawConfig) (overrides : Overrides) (config : Config) :
    validate raw overrides = .ok config ↔
      Acceptable raw overrides ∧ config.Holds raw overrides := by
  rw [validate_eq_ok_iff, validateSweep_eq_ok_iff_holds, validateRunner_eq_ok_iff]
  simp only [validateCatalog_eq_ok_iff, selectSuites_eq_ok_iff]
  obtain ⟨sweep, runner, catalog⟩ := config
  constructor
  · rintro ⟨⟨hsweep, hdims⟩, ⟨hrunner, rfl⟩, ⟨suites⟩, ⟨hsuites, hholds⟩, hrequests, hselected⟩
    rw [hdims.runs] at hrunner
    refine ⟨⟨hsweep, hrunner, hsuites, ?_⟩, hdims, rfl, rfl, rfl, rfl,
      ⟨suites, hholds, hselected⟩, ?_⟩
    · rw [← map_name_of_suitesHold hholds]
      exact hrequests
    · rw [hselected]
      exact selection_ne_nil (suites_ne_nil hsuites hholds) hrequests
  · rintro ⟨hacceptable, hdims, hbinDir, hworkDir, hmultiplier, hmin, hcatalog, -⟩
    obtain ⟨suites, hholds, hselected⟩ := hcatalog
    have hrunner := hacceptable.runner
    rw [← hdims.runs] at hrunner
    have hrequests := hacceptable.requests
    rw [← map_name_of_suitesHold hholds] at hrequests
    obtain ⟨binDir, workDir?, multiplier, minSuccesses⟩ := runner
    obtain rfl := hbinDir
    refine ⟨⟨hacceptable.sweep, hdims⟩, ⟨hrunner, ?_⟩, ⟨suites⟩, ⟨hacceptable.suites, hholds⟩,
      hrequests, hselected⟩
    exact congr (congr (congrArg _ hworkDir) hmultiplier) hmin

/-- Settings that meet the criterion make a configuration. -/
theorem Acceptable.exists_holds {raw : RawConfig} {overrides : Overrides}
    (h : Acceptable raw overrides) : ∃ config : Config, config.Holds raw overrides := by
  obtain ⟨dims, hdims⟩ := exists_dimensions h.sweep
  obtain ⟨suites, hsuites⟩ := exists_suites raw.runner.binDir h.suites
  have hrequests := h.requests
  rw [← map_name_of_suitesHold hsuites] at hrequests
  exact ⟨⟨dims, ⟨_, _, _, _⟩, ⟨_⟩⟩, hdims, rfl, rfl, rfl, rfl, ⟨suites, hsuites, rfl⟩,
    selection_ne_nil (suites_ne_nil h.suites hsuites) hrequests⟩

/-- **ACCEPTED ARE JUST THE ACCEPTABLE SETTINGS**, and the configuration that they
    make holds just what is written, with the suites that are asked for. -/
theorem validate_accepts_iff_acceptable (raw : RawConfig) (overrides : Overrides) :
    ((∃ config, validate raw overrides = .ok config) ↔ Acceptable raw overrides) ∧
    ∀ config, validate raw overrides = .ok config ↔
      Acceptable raw overrides ∧ config.Holds raw overrides := by
  refine ⟨?_, validate_eq_ok_iff_holds raw overrides⟩
  constructor
  · rintro ⟨config, h⟩
    exact ((validate_eq_ok_iff_holds raw overrides config).mp h).1
  · intro h
    obtain ⟨config, hholds⟩ := h.exists_holds
    exact ⟨config, (validate_eq_ok_iff_holds raw overrides config).mpr ⟨h, hholds⟩⟩

end Settings

end BenchSweep
