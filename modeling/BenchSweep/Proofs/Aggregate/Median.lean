import BenchSweep.Proofs.Aggregate.Statistics
import Mathlib.Data.List.Forall2

/-! # What the median withstands

    A statistic is a rank: it is at most a bound exactly if enough figures are, one for
    the minimum, all for the maximum and the lower half with the middle for the median
    (`Summarises.min_le_iff`, `max_le_iff`, `median_le_iff`).  So figures need not be
    sorted to compare their statistics, they only need to be counted:

    * wherever more than half of the figures lie, there lies their median, whatever the
      others are (`median_within_majority`);
    * figures that can be paired off with others that are not lower have no higher
      statistics, so that one faster repetition never lowers a published median
      (`statistics_monotone`). -/

namespace BenchSweep

namespace Statistics

variable {samples samples' : List UInt64} {stats stats' : Statistics}

/-! ## Statistics as ranks -/

/-- A weaker condition holds of no fewer figures. -/
theorem countP_le_of_imp {p q : UInt64 → Prop} [DecidablePred p] [DecidablePred q]
    (h : ∀ x, p x → q x) (samples : List UInt64) :
    samples.countP (fun x => p x) ≤ samples.countP (fun x => q x) := by
  refine List.countP_mono_left ?_
  intro x _ hx
  exact decide_eq_true (h x (of_decide_eq_true hx))

namespace Summarises

theorem min_le_iff (h : stats.Summarises samples) (b : UInt64) :
    stats.min ≤ b ↔ 0 < samples.countP (· ≤ b) := by
  rw [List.countP_pos_iff]
  constructor
  · intro hle
    exact ⟨stats.min, h.min_mem, decide_eq_true hle⟩
  · rintro ⟨x, hx, hle⟩
    exact UInt64.le_trans (h.min_le x hx) (of_decide_eq_true hle)

theorem max_le_iff (h : stats.Summarises samples) (b : UInt64) :
    stats.max ≤ b ↔ samples.countP (· ≤ b) = samples.length := by
  rw [List.countP_eq_length]
  constructor
  · intro hle x hx
    exact decide_eq_true (UInt64.le_trans (h.le_max x hx) hle)
  · intro hall
    exact of_decide_eq_true (hall stats.max h.max_mem)

/-- **THE MEDIAN FROM ABOVE**: it is at most a bound exactly if more figures are than
    stand before the middle. -/
theorem median_le_iff (h : stats.Summarises samples) (b : UInt64) :
    stats.median ≤ b ↔ (samples.length - 1) / 2 < samples.countP (· ≤ b) := by
  constructor
  · intro hle
    have hmono : samples.countP (· ≤ stats.median) ≤ samples.countP (· ≤ b) :=
      countP_le_of_imp (fun x hx => UInt64.le_trans hx hle) samples
    exact Nat.lt_of_lt_of_le h.upTo hmono
  · intro hcount
    refine UInt64.not_lt.mp ?_
    intro hlt
    have hmono : samples.countP (· ≤ b) ≤ samples.countP (· < stats.median) :=
      countP_le_of_imp (fun x hx => UInt64.lt_of_le_of_lt hx hlt) samples
    have hbelow := h.below
    omega

/-- **THE MEDIAN FROM BELOW**: it is at least a bound exactly if no more figures are
    below that than stand before the middle. -/
theorem le_median_iff (h : stats.Summarises samples) (a : UInt64) :
    a ≤ stats.median ↔ samples.countP (· < a) ≤ (samples.length - 1) / 2 := by
  constructor
  · intro hle
    have hmono : samples.countP (· < a) ≤ samples.countP (· < stats.median) :=
      countP_le_of_imp (fun x hx => UInt64.lt_of_lt_of_le hx hle) samples
    exact Nat.le_trans hmono h.below
  · intro hcount
    refine UInt64.not_lt.mp ?_
    intro hlt
    have hmono : samples.countP (· ≤ stats.median) ≤ samples.countP (· < a) :=
      countP_le_of_imp (fun x hx => UInt64.lt_of_le_of_lt hx hlt) samples
    have hupTo := h.upTo
    omega

end Summarises

/-! ## A majority -/

/-- What is in an interval is not below it, and is at most its upper end. -/
theorem countP_within (samples : List UInt64) (a b : UInt64) :
    samples.countP (fun x => a ≤ x ∧ x ≤ b) + samples.countP (· < a) ≤ samples.length ∧
      samples.countP (fun x => a ≤ x ∧ x ≤ b) ≤ samples.countP (· ≤ b) := by
  constructor
  · rw [samples.length_eq_countP_add_countP (fun x => decide (a ≤ x ∧ x ≤ b))]
    refine Nat.add_le_add_left (List.countP_mono_left ?_) _
    intro x _ hlt
    refine decide_eq_true ?_
    intro hin
    exact UInt64.not_lt.mpr (of_decide_eq_true hin).1 (of_decide_eq_true hlt)
  · exact countP_le_of_imp (fun x hin => hin.2) samples

/-- **A MAJORITY** holds the median: where more than half of the figures lie in an
    interval, there are statistics, and their median lies in it too.  Nothing is asked
    of the other figures. -/
theorem median_within_majority (samples : List UInt64) (a b : UInt64)
    (hmajority : samples.length < 2 * samples.countP (fun x => a ≤ x ∧ x ≤ b)) :
    ∃ stats, ofSamples? samples = some stats ∧ a ≤ stats.median ∧ stats.median ≤ b := by
  have hne : samples ≠ [] := by
    rintro rfl
    exact Nat.lt_irrefl 0 hmajority
  obtain ⟨stats, hstats⟩ := exists_ofSamples? hne
  have hsummary := summarises_of_ofSamples? hstats
  obtain ⟨hbelow, hupTo⟩ := countP_within samples a b
  refine ⟨stats, hstats, ?_, ?_⟩
  · rw [hsummary.le_median_iff]
    omega
  · rw [hsummary.median_le_iff]
    omega

/-- Three of five figures keep the median among them, however far off the other two. -/
theorem median_within_three_of_five :
    let samples : List UInt64 := [101, 0, 100, 18446744073709551615, 102]
    samples.length < 2 * samples.countP (fun x => 100 ≤ x ∧ x ≤ 102) ∧
      ∃ stats, ofSamples? samples = some stats ∧ 100 ≤ stats.median ∧ stats.median ≤ 102 := by
  intro samples
  have hmajority : samples.length < 2 * samples.countP (fun x => 100 ≤ x ∧ x ≤ 102) := by decide
  exact ⟨hmajority, median_within_majority samples 100 102 hmajority⟩

/-! ## Higher figures -/

/-- Figures **PAIRED OFF** with others so that none is above its partner. -/
def PairedBelow (samples samples' : List UInt64) : Prop :=
  ∃ paired, samples.Perm paired ∧ List.Forall₂ (· ≤ ·) paired samples'

/-- Of lower figures no fewer are up to a bound, one pair after the other. -/
theorem countP_le_of_forall₂ (h : List.Forall₂ (· ≤ ·) samples samples') (b : UInt64) :
    samples'.countP (· ≤ b) ≤ samples.countP (· ≤ b) := by
  induction h with
  | nil => exact Nat.le_refl 0
  | @cons x y xs ys hxy _ ih =>
      rw [List.countP_cons, List.countP_cons]
      by_cases hy : y ≤ b
      · have hx : x ≤ b := UInt64.le_trans hxy hy
        rw [if_pos (decide_eq_true hy), if_pos (decide_eq_true hx)]
        exact Nat.succ_le_succ ih
      · rw [if_neg (fun htrue => hy (of_decide_eq_true htrue))]
        exact Nat.le_trans ih (Nat.le_add_right _ _)

namespace PairedBelow

theorem length_eq (h : PairedBelow samples samples') : samples.length = samples'.length := by
  obtain ⟨paired, hperm, hbelow⟩ := h
  rw [hperm.length_eq, hbelow.length_eq]

/-- **RANKS** of lower figures are no lower. -/
theorem countP_le (h : PairedBelow samples samples') (b : UInt64) :
    samples'.countP (· ≤ b) ≤ samples.countP (· ≤ b) := by
  obtain ⟨paired, hperm, hbelow⟩ := h
  rw [hperm.countP_eq]
  exact countP_le_of_forall₂ hbelow b

/-- One higher figure, the others in their places. -/
theorem of_le {x y : UInt64} (hle : x ≤ y) (front back : List UInt64) :
    PairedBelow (front ++ x :: back) (front ++ y :: back) := by
  have hself : ∀ xs : List UInt64, List.Forall₂ (· ≤ ·) xs xs := by
    intro xs
    rw [List.forall₂_same]
    intro z _
    exact UInt64.le_refl z
  exact ⟨_, List.Perm.refl _, List.rel_append (hself front) (.cons hle (hself back))⟩

end PairedBelow

/-- **SUMMARIES** of lower figures are no higher. -/
theorem Summarises.mono (h : stats.Summarises samples) (h' : stats'.Summarises samples')
    (hpaired : PairedBelow samples samples') :
    stats.min ≤ stats'.min ∧ stats.median ≤ stats'.median ∧ stats.max ≤ stats'.max := by
  have hlength := hpaired.length_eq
  refine ⟨?_, ?_, ?_⟩
  · have hrank := (h'.min_le_iff stats'.min).mp (UInt64.le_refl _)
    exact (h.min_le_iff _).mpr (Nat.lt_of_lt_of_le hrank (hpaired.countP_le _))
  · have hrank := (h'.median_le_iff stats'.median).mp (UInt64.le_refl _)
    rw [h.median_le_iff, hlength]
    exact Nat.lt_of_lt_of_le hrank (hpaired.countP_le _)
  · have hrank := (h'.max_le_iff stats'.max).mp (UInt64.le_refl _)
    have hcount := hpaired.countP_le stats'.max
    rw [h.max_le_iff]
    refine Nat.le_antisymm List.countP_le_length ?_
    rw [hlength, ← hrank]
    exact hcount

end Statistics

/-- The median that is published, if there are enough figures. -/
theorem Pending.median?_reduce (p : Pending) (runs least : Nat) :
    (p.reduce runs least).measurement.median?
      = if least ≤ p.samples.length then (Statistics.ofSamples? p.samples).map (·.median)
        else none := by
  show (if least ≤ p.samples.length then _ else Measurement.failed).median? = _
  by_cases henough : least ≤ p.samples.length
  · rw [if_pos henough, if_pos henough]
    cases Statistics.ofSamples? p.samples with
    | none => rfl
    | some stats => rfl
  · rw [if_neg henough, if_neg henough]
    rfl

namespace Statistics

/-- **MONOTONE STATISTICS.**  Of figures that can be paired off with others, none of them
    above its partner, neither the minimum nor the median nor the maximum is above that
    of the others; so where one figure of a configuration is raised, a median is still
    published, and it is not lower. -/
theorem statistics_monotone :
    (∀ samples samples' : List UInt64, samples ≠ [] → PairedBelow samples samples' →
      ∃ stats stats', ofSamples? samples = some stats ∧ ofSamples? samples' = some stats' ∧
        stats.min ≤ stats'.min ∧ stats.median ≤ stats'.median ∧ stats.max ≤ stats'.max) ∧
    ∀ (p : Pending) (runs least : Nat) (front back : List UInt64) (x y m : UInt64),
      p.samples = front ++ x :: back → x ≤ y →
      (p.reduce runs least).measurement.median? = some m →
      ∃ m', (({ p with samples := front ++ y :: back } : Pending).reduce runs
          least).measurement.median? = some m' ∧ m ≤ m' := by
  constructor
  · intro samples samples' hne hpaired
    have hne' : samples' ≠ [] := by
      rintro rfl
      exact hne (List.length_eq_zero_iff.mp hpaired.length_eq)
    obtain ⟨stats, hstats⟩ := exists_ofSamples? hne
    obtain ⟨stats', hstats'⟩ := exists_ofSamples? hne'
    exact ⟨stats, stats', hstats, hstats',
      (summarises_of_ofSamples? hstats).mono (summarises_of_ofSamples? hstats') hpaired⟩
  · intro p runs least front back x y m hsamples hle hmedian
    have hpaired := PairedBelow.of_le hle front back
    have hne' : front ++ y :: back ≠ [] := by simp
    obtain ⟨stats', hstats'⟩ := exists_ofSamples? hne'
    rw [Pending.median?_reduce, hsamples] at hmedian
    split at hmedian
    · next henough =>
        obtain ⟨stats, hstats, rfl⟩ := Option.map_eq_some_iff.mp hmedian
        refine ⟨stats'.median, ?_, ?_⟩
        · rw [Pending.median?_reduce, if_pos (hpaired.length_eq ▸ henough), hstats']
          rfl
        · exact ((summarises_of_ofSamples? hstats).mono
            (summarises_of_ofSamples? hstats') hpaired).2.1
    · exact nomatch hmedian

/-- Three figures paired off with higher ones in another order, and the lowest of three
    raised above the others. -/
theorem statistics_monotone_reordered :
    let key : Key := ⟨⟨"set-ll-1k", by decide⟩, ⟨"mh-orc", by decide⟩, ⟨1, by decide⟩,
      ⟨100, by decide⟩⟩
    let p : Pending := { key, seen := 3, samples := [30] ++ 10 :: [20], failures := [] }
    let raised : Pending := { p with samples := [30] ++ 90 :: [20] }
    PairedBelow [30, 10, 20] [25, 40, 15] ∧
      (∃ stats stats', ofSamples? [30, 10, 20] = some stats ∧
        ofSamples? [25, 40, 15] = some stats' ∧ stats.min ≤ stats'.min ∧
        stats.median ≤ stats'.median ∧ stats.max ≤ stats'.max) ∧
      (p.reduce 3 1).measurement.median? = some 20 ∧
      ∃ m', (raised.reduce 3 1).measurement.median? = some m' ∧ 20 ≤ m' := by
  intro key p raised
  have hpaired : PairedBelow [30, 10, 20] [25, 40, 15] :=
    ⟨[20, 30, 10], by decide, .cons (by decide) (.cons (by decide) (.cons (by decide) .nil))⟩
  have hsummary : Summarises ⟨20, 10, 30, 100⟩ p.samples :=
    { min_mem := by decide
      min_le := by simp [p]
      max_mem := by decide
      le_max := by simp [p]
      median_mem := by decide
      below := by decide
      upTo := by decide
      spread_eq := by decide +kernel }
  have hmedian : (p.reduce 3 1).measurement.median? = some 20 := by
    rw [Pending.median?_reduce, ofSamples?_eq_some_iff.mpr hsummary]
    rfl
  obtain ⟨hlists, hraised⟩ := statistics_monotone
  exact ⟨hpaired, hlists _ _ (List.cons_ne_nil _ _) hpaired, hmedian,
    hraised p 3 1 [30] [20] 10 90 20 rfl (by decide) hmedian⟩

end Statistics

end BenchSweep
