import BenchSweep.Proofs.Capture.Path
import BenchSweep.Proofs.Settings.Criterion
import BenchSweep.Proofs.Sweep.Cells

/-! # What arguments tell of a trial

    A trial is launched with the arguments that its suite takes, and an executable
    knows nothing else of it.  Flags state everything but the repetition
    (`Encoding.flags_arguments_eq_iff`), positional arguments only the variant and
    the length (`Encoding.positional_arguments_eq_iff`).  So the arguments of
    different configurations differ exactly under the encodings that are said to
    express the dimensions. -/

namespace BenchSweep

theorem TrialDuration.toNat_inj {d d' : TrialDuration} :
    d.secs.toNat = d'.secs.toNat ↔ d = d' := by
  cases d
  cases d'
  rw [UInt64.toNat_inj, TrialDuration.mk.injEq]

namespace Encoding

/-- A number behind a label can be read off the two of them. -/
theorem label_toString_inj {label : String} {a b : Nat} :
    label ++ toString a = label ++ toString b ↔ a = b := by
  rw [String.append_right_inj, Text.toString_injective.eq_iff]

/-- The last flag is there for a key count, and tells it. -/
theorem keysFlag_inj {label : String} {keys keys' : Option UInt64} :
    (keys.toList.map fun k => label ++ toString k.toNat)
        = (keys'.toList.map fun k => label ++ toString k.toNat) ↔ keys = keys' := by
  have hinjective : ∀ k k' : UInt64, label ++ toString k.toNat = label ++ toString k'.toNat →
      k = k' := fun k k' h => UInt64.toNat_inj.mp (label_toString_inj.mp h)
  rw [List.map_inj_right hinjective]
  cases keys with
  | none =>
      cases keys' with
      | none => simp
      | some k' => simp
  | some k =>
      cases keys' with
      | none => simp
      | some k' => simp

/-- **FLAGS** tell variant, length, thread count, ratio and key count, and nothing
    else. -/
theorem flags_arguments_eq_iff (t t' : Trial) (d d' : TrialDuration) :
    flags.arguments t d = flags.arguments t' d' ↔
      t.variant.name = t'.variant.name ∧ d = d' ∧ t.threads = t'.threads ∧
        t.ratio = t'.ratio ∧ t.suite.keys = t'.suite.keys := by
  simp only [arguments, List.cons_append, List.nil_append, List.cons.injEq, true_and,
    ThreadCount.text, Permil.text, label_toString_inj, keysFlag_inj,
    Name.text_injective.eq_iff, TrialDuration.toNat_inj, ThreadCount.toNat_inj,
    Permil.toNat_inj]

/-- **POSITIONAL ARGUMENTS** tell variant and length, and nothing else. -/
theorem positional_arguments_eq_iff (t t' : Trial) (d d' : TrialDuration) :
    positional.arguments t d = positional.arguments t' d' ↔
      t.variant.name = t'.variant.name ∧ d = d' := by
  simp only [arguments, List.cons.injEq, and_true, Text.toString_injective.eq_iff,
    Name.text_injective.eq_iff, TrialDuration.toNat_inj]

end Encoding

/-! ## Trials of one sweep -/

namespace Sweep

variable {s : Sweep}

/-- Every combination of what a sweep lists is one of its trials. -/
theorem trial_mem_trials {v : Variant} {t : ThreadCount} {r : Permil} {k : Nat}
    (hv : v ∈ s.suite.variants) (ht : t ∈ s.dims.threads) (hr : r ∈ s.dims.ratios)
    (hk : k < s.dims.runs.val.toNat) : s.trial v t r k ∈ s.trials := by
  refine List.mem_flatMap.mpr ⟨v, hv, List.mem_flatMap.mpr ⟨t, ht, ?_⟩⟩
  exact List.mem_flatMap.mpr ⟨r, hr, List.mem_map.mpr ⟨k, List.mem_range.mpr hk, rfl⟩⟩

/-- In a sweep with flags, arguments tell configurations apart. -/
theorem flags_arguments_eq_iff_key (hflags : s.suite.encoding = .flags) (d : TrialDuration)
    {t t' : Trial} (ht : t ∈ s.trials) (ht' : t' ∈ s.trials) :
    t.arguments d = t'.arguments d ↔ t.key = t'.key := by
  have hsuite := suite_of_mem_trials ht
  have hsuite' := suite_of_mem_trials ht'
  rw [Trial.arguments, Trial.arguments, hsuite, hsuite', hflags,
    Encoding.flags_arguments_eq_iff, Trial.key, Trial.key, hsuite, hsuite', Key.mk.injEq]
  constructor
  · rintro ⟨hvariant, -, hthreads, hratio, -⟩
    exact ⟨rfl, hvariant, hthreads, hratio⟩
  · rintro ⟨-, hvariant, hthreads, hratio⟩
    exact ⟨hvariant, rfl, hthreads, hratio, rfl⟩

end Sweep

/-! ## Encodings that express the dimensions -/

theorem isName_orc : IsName "hsskip-orc" := by decide +kernel

theorem isName_skiplist : IsName "set-skiplist-1m" := by decide +kernel

/-- One variant of the built-in skip lists. -/
def orcVariant : Variant :=
  builtinVariant "hsskip-orc" "Herlihy-Shavit skiplist with poison and OrcGC" isName_orc

/-- That variant at two thread counts, twice each, with arguments of some encoding. -/
def orcSweep (encoding : Encoding) : Sweep :=
  { suite :=
      { builtinSuite "bin" "set-skiplist-1m" 1000000 [orcVariant] isName_skiplist with
        encoding }
    dims :=
      { duration := ⟨20, by decide, by decide⟩
        runs := ⟨2, by decide⟩
        threads := [⟨1, by decide⟩, ⟨4, by decide⟩]
        ratios := [⟨100, by decide⟩] } }

/-- A repetition of that variant at one of the thread counts. -/
def orcTrial (encoding : Encoding) (threads : ThreadCount) (repetition : Nat) : Trial :=
  (orcSweep encoding).trial orcVariant threads ⟨100, by decide⟩ repetition

theorem orcTrial_mem_trials (encoding : Encoding) {threads : ThreadCount} {repetition : Nat}
    (hthreads : threads ∈ (orcSweep encoding).dims.threads) (hrepetition : repetition < 2) :
    orcTrial encoding threads repetition ∈ (orcSweep encoding).trials :=
  Sweep.trial_mem_trials List.mem_cons_self hthreads List.mem_cons_self hrepetition

/-- Under an encoding that does not express the dimensions, trials of one sweep have
    the same arguments at different thread counts. -/
theorem Encoding.exists_same_arguments {encoding : Encoding}
    (hencoding : encoding.expressesDimensions = false) :
    ∃ (s : Sweep) (d : TrialDuration), s.suite.encoding = encoding ∧
      ∃ t ∈ s.trials, ∃ t' ∈ s.trials,
        (t.threads, t.ratio) ≠ (t'.threads, t'.ratio) ∧ t.arguments d = t'.arguments d := by
  cases encoding with
  | flags => exact nomatch hencoding
  | positional =>
      have hmem : ∀ threads ∈ (orcSweep .positional).dims.threads,
          orcTrial .positional threads 0 ∈ (orcSweep .positional).trials :=
        fun threads hthreads => orcTrial_mem_trials _ hthreads (by decide)
      refine ⟨orcSweep .positional, (orcSweep .positional).dims.duration, rfl,
        _, hmem ⟨1, by decide⟩ (by decide), _, hmem ⟨4, by decide⟩ (by decide), ?_, ?_⟩
      · exact fun h => absurd (congrArg Prod.fst h) (by decide)
      · exact (Encoding.positional_arguments_eq_iff _ _ _ _).mpr ⟨rfl, rfl⟩

/-- **ARGUMENTS IDENTIFY A CONFIGURATION** if they are flags, and variant and length
    alone if they are positional.  An encoding is said to express the dimensions
    exactly if it never gives trials at different dimensions the same arguments,
    whatever they are trials of, or within one sweep. -/
theorem arguments_identify_configurations :
    (∀ (t t' : Trial) (d d' : TrialDuration),
      (Encoding.flags.arguments t d = Encoding.flags.arguments t' d' ↔
        t.variant.name = t'.variant.name ∧ d = d' ∧ t.threads = t'.threads ∧
          t.ratio = t'.ratio ∧ t.suite.keys = t'.suite.keys) ∧
      (Encoding.positional.arguments t d = Encoding.positional.arguments t' d' ↔
        t.variant.name = t'.variant.name ∧ d = d')) ∧
    (∀ (s : Sweep) (d : TrialDuration), s.suite.encoding = .flags →
      ∀ t ∈ s.trials, ∀ t' ∈ s.trials, t.arguments d = t'.arguments d ↔ t.key = t'.key) ∧
    ∀ encoding : Encoding,
      (encoding.expressesDimensions = true ↔
        ∀ (t t' : Trial) (d d' : TrialDuration),
          (t.threads, t.ratio) ≠ (t'.threads, t'.ratio) →
            encoding.arguments t d ≠ encoding.arguments t' d') ∧
      (encoding.expressesDimensions = true ↔
        ∀ (s : Sweep) (d : TrialDuration), s.suite.encoding = encoding →
          ∀ t ∈ s.trials, ∀ t' ∈ s.trials, (t.threads, t.ratio) ≠ (t'.threads, t'.ratio) →
            t.arguments d ≠ t'.arguments d) := by
  refine ⟨fun t t' d d' => ⟨Encoding.flags_arguments_eq_iff t t' d d',
    Encoding.positional_arguments_eq_iff t t' d d'⟩,
    fun s d hflags t ht t' ht' => Sweep.flags_arguments_eq_iff_key hflags d ht ht', ?_⟩
  intro encoding
  cases hexpresses : encoding.expressesDimensions with
  | true =>
      have hapart : ∀ (t t' : Trial) (d d' : TrialDuration),
          (t.threads, t.ratio) ≠ (t'.threads, t'.ratio) →
            encoding.arguments t d ≠ encoding.arguments t' d' := by
        intro t t' d d' hne hsame
        cases encoding with
        | positional => exact nomatch hexpresses
        | flags =>
            obtain ⟨-, -, hthreads, hratio, -⟩ :=
              (Encoding.flags_arguments_eq_iff t t' d d').mp hsame
            exact hne (Prod.ext hthreads hratio)
      refine ⟨iff_of_true rfl hapart, iff_of_true rfl ?_⟩
      rintro s d rfl t ht t' ht' hne
      rw [Trial.arguments, Trial.arguments, Sweep.suite_of_mem_trials ht,
        Sweep.suite_of_mem_trials ht']
      exact hapart t t' d d hne
  | false =>
      obtain ⟨s, d, hs, t, ht, t', ht', hne, hsame⟩ :=
        Encoding.exists_same_arguments hexpresses
      refine ⟨iff_of_false Bool.false_ne_true ?_, iff_of_false Bool.false_ne_true ?_⟩
      · intro hapart
        rw [Trial.arguments, Trial.arguments, Sweep.suite_of_mem_trials ht,
          Sweep.suite_of_mem_trials ht', hs] at hsame
        exact hapart t t' d d hne hsame
      · exact fun hapart => hapart s d hs t ht t' ht' hne hsame

/-- Of one variant with flags, repetitions have the same arguments and thread counts
    have different ones; positional arguments are the same for both thread counts. -/
theorem arguments_of_orc_skiplist :
    let s := orcSweep .flags
    let d := s.dims.duration
    let single : ThreadCount := ⟨1, by decide⟩
    let four : ThreadCount := ⟨4, by decide⟩
    (orcTrial .flags single 0).arguments d = (orcTrial .flags single 1).arguments d ∧
    (orcTrial .flags single 0).arguments d ≠ (orcTrial .flags four 0).arguments d ∧
    Encoding.positional.arguments (orcTrial .flags single 0) d
      = Encoding.positional.arguments (orcTrial .flags four 0) d := by
  intro s d single four
  obtain ⟨halways, hflags, hexpresses⟩ := arguments_identify_configurations
  have hfirst : orcTrial .flags single 0 ∈ s.trials :=
    orcTrial_mem_trials _ (by decide) (by decide)
  have hagain : orcTrial .flags single 1 ∈ s.trials :=
    orcTrial_mem_trials _ (by decide) (by decide)
  have hfour : orcTrial .flags four 0 ∈ s.trials :=
    orcTrial_mem_trials _ (by decide) (by decide)
  refine ⟨(hflags s d rfl _ hfirst _ hagain).mpr rfl, ?_,
    (halways _ _ d d).2.mpr ⟨rfl, rfl⟩⟩
  exact (hexpresses .flags).2.mp rfl s d rfl _ hfirst _ hfour
    fun h => absurd (congrArg Prod.fst h) (by decide)

end BenchSweep
