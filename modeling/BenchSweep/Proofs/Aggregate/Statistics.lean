import BenchSweep.Proofs.Aggregate.Reduction

/-! # Statistics by rank

    What the statistics of some figures are can be said without sorting: the extremes
    bound all figures, and the median is the figure of the middle rank, so that at most
    `(n - 1) / 2` of `n` figures are below it and more than that are not above it.  There
    is one such summary of any figures and none of no figures (`Summarises.unique`), it is
    the one that is computed (`ofSamples?_eq_some_iff`), and the order of the figures has
    no part in it (`order_statistics`). -/

namespace BenchSweep

namespace Statistics

/-- **A SUMMARY** of some figures: two of them that bound all, the one of the middle
    rank, and the spread of these three. -/
structure Summarises (stats : Statistics) (samples : List UInt64) : Prop where
  min_mem    : stats.min ∈ samples
  min_le     : ∀ x ∈ samples, stats.min ≤ x
  max_mem    : stats.max ∈ samples
  le_max     : ∀ x ∈ samples, x ≤ stats.max
  median_mem : stats.median ∈ samples
  below      : samples.countP (· < stats.median) ≤ (samples.length - 1) / 2
  upTo       : (samples.length - 1) / 2 < samples.countP (· ≤ stats.median)
  spread_eq  : stats.spread = spreadPercent stats.median stats.min stats.max

/-! ## Ranks in ascending figures -/

theorem pairwise_ascending (samples : List UInt64) : (ascending samples).Pairwise (· ≤ ·) := by
  have hsorted : (ascending samples).Pairwise (fun a b => decide (a ≤ b) = true) := by
    refine List.pairwise_mergeSort ?_ ?_ samples
    · intro a b c hab hbc
      exact decide_eq_true (UInt64.le_trans (of_decide_eq_true hab) (of_decide_eq_true hbc))
    · intro a b
      rcases UInt64.le_total a b with hab | hba
      · rw [decide_eq_true hab, Bool.true_or]
      · rw [decide_eq_true hba, Bool.or_true]
  exact hsorted.imp of_decide_eq_true

theorem ascending_perm (samples : List UInt64) : (ascending samples).Perm samples :=
  List.mergeSort_perm ..

/-- In ascending figures the place of a figure is a rank of it: what is below it stands
    before it, and nothing before it is above it. -/
theorem countP_of_ascending {l l' : List UInt64} {m : UInt64}
    (h : (l ++ m :: l').Pairwise (· ≤ ·)) :
    (l ++ m :: l').countP (· < m) ≤ l.length ∧ l.length < (l ++ m :: l').countP (· ≤ m) := by
  obtain ⟨-, hright, hacross⟩ := List.pairwise_append.mp h
  have hbehind : (m :: l').countP (· < m) = 0 := by
    rw [List.countP_eq_zero]
    intro x hx hlt
    have hle : m ≤ x := by
      rcases List.mem_cons.mp hx with rfl | hx
      · exact UInt64.le_refl x
      · exact (List.pairwise_cons.mp hright).1 x hx
    exact UInt64.not_lt.mpr hle (of_decide_eq_true hlt)
  have hbefore : l.countP (· ≤ m) = l.length := by
    rw [List.countP_eq_length]
    intro x hx
    exact decide_eq_true (hacross x hx m List.mem_cons_self)
  have hself : 0 < (m :: l').countP (· ≤ m) := by
    rw [List.countP_pos_iff]
    exact ⟨m, List.mem_cons_self, decide_eq_true (UInt64.le_refl m)⟩
  rw [List.countP_append, List.countP_append, hbehind, hbefore]
  exact ⟨List.countP_le_length, by omega⟩

/-- **THE LOWER MEDIAN** of ascending figures is of the middle rank. -/
theorem rank_of_lowerMedian? {sorted : List UInt64} {m : UInt64}
    (hsorted : sorted.Pairwise (· ≤ ·)) (hm : lowerMedian? sorted = some m) :
    sorted.countP (· < m) ≤ (sorted.length - 1) / 2 ∧
      (sorted.length - 1) / 2 < sorted.countP (· ≤ m) := by
  obtain ⟨hlt, hget⟩ := List.getElem?_eq_some_iff.mp hm
  have hsplit : sorted = sorted.take ((sorted.length - 1) / 2)
      ++ m :: sorted.drop ((sorted.length - 1) / 2 + 1) := by
    rw [← hget, ← List.drop_eq_getElem_cons hlt, List.take_append_drop]
  have hlength : (sorted.take ((sorted.length - 1) / 2)).length = (sorted.length - 1) / 2 :=
    List.length_take_of_le (Nat.le_of_lt hlt)
  rw [hsplit] at hsorted
  have hrank := countP_of_ascending hsorted
  rwa [← hsplit, hlength] at hrank

/-- The first of ascending figures is the least. -/
theorem le_of_head? {sorted : List UInt64} {least : UInt64} (hsorted : sorted.Pairwise (· ≤ ·))
    (hleast : sorted.head? = some least) : ∀ x ∈ sorted, least ≤ x := by
  obtain ⟨rest, rfl⟩ := List.head?_eq_some_iff.mp hleast
  intro x hx
  rcases List.mem_cons.mp hx with rfl | hx
  · exact UInt64.le_refl x
  · exact (List.pairwise_cons.mp hsorted).1 x hx

/-- The last of ascending figures is the greatest. -/
theorem le_of_getLast? {sorted : List UInt64} {greatest : UInt64}
    (hsorted : sorted.Pairwise (· ≤ ·)) (hgreatest : sorted.getLast? = some greatest) :
    ∀ x ∈ sorted, x ≤ greatest := by
  obtain ⟨front, rfl⟩ := List.getLast?_eq_some_iff.mp hgreatest
  intro x hx
  rcases List.mem_append.mp hx with hx | hx
  · exact (List.pairwise_append.mp hsorted).2.2 x hx greatest List.mem_cons_self
  · rw [List.mem_singleton.mp hx]
    exact UInt64.le_refl greatest

/-! ## The summary of some figures -/

variable {samples : List UInt64} {stats : Statistics}

/-- The computed statistics are a summary. -/
theorem summarises_of_ofSamples? (h : ofSamples? samples = some stats) :
    stats.Summarises samples := by
  have hmem := mem_of_ofSamples? h
  have hsorted := pairwise_ascending samples
  have hperm := ascending_perm samples
  simp only [ofSamples?, Option.bind_eq_bind, Option.bind_eq_some_iff] at h
  obtain ⟨median, hmedian, least, hleast, greatest, hgreatest, hsome⟩ := h
  obtain rfl := Option.some.inj hsome
  have hrank := rank_of_lowerMedian? hsorted hmedian
  rw [hperm.countP_eq, hperm.countP_eq, hperm.length_eq] at hrank
  exact
    { min_mem := hmem least (by simp)
      min_le := fun x hx => le_of_head? hsorted hleast x (hperm.mem_iff.mpr hx)
      max_mem := hmem greatest (by simp)
      le_max := fun x hx => le_of_getLast? hsorted hgreatest x (hperm.mem_iff.mpr hx)
      median_mem := hmem median (by simp)
      below := hrank.1
      upTo := hrank.2
      spread_eq := rfl }

namespace Summarises

/-- Of two medians none is below the other: the ranks of the lower one would leave too
    many figures below the upper one. -/
theorem median_le {stats' : Statistics} (h : stats.Summarises samples)
    (h' : stats'.Summarises samples) : stats'.median ≤ stats.median := by
  refine UInt64.not_lt.mp fun hlt => ?_
  have hcount : samples.countP (· ≤ stats.median) ≤ samples.countP (· < stats'.median) := by
    refine List.countP_mono_left fun x _ hle => ?_
    exact decide_eq_true (UInt64.lt_of_le_of_lt (of_decide_eq_true hle) hlt)
  have hlow := h.upTo
  have hhigh := h'.below
  omega

/-- **ONE SUMMARY** of the same figures. -/
theorem unique {stats' : Statistics} (h : stats.Summarises samples)
    (h' : stats'.Summarises samples) : stats = stats' := by
  have hmin : stats.min = stats'.min :=
    UInt64.le_antisymm (h.min_le _ h'.min_mem) (h'.min_le _ h.min_mem)
  have hmax : stats.max = stats'.max :=
    UInt64.le_antisymm (h'.le_max _ h.max_mem) (h.le_max _ h'.max_mem)
  have hmedian : stats.median = stats'.median :=
    UInt64.le_antisymm (h'.median_le h) (h.median_le h')
  have hspread : stats.spread = stats'.spread := by
    rw [h.spread_eq, h'.spread_eq, hmin, hmax, hmedian]
  -- `Statistics` has no extensionality lemma, so its fields are taken apart
  obtain ⟨median, min, max, spread⟩ := stats
  obtain ⟨median', min', max', spread'⟩ := stats'
  obtain rfl : median = median' := hmedian
  obtain rfl : min = min' := hmin
  obtain rfl : max = max' := hmax
  obtain rfl : spread = spread' := hspread
  rfl

/-- The order of the figures has no part in their summary. -/
theorem perm {samples' : List UInt64} (h : stats.Summarises samples)
    (hperm : samples.Perm samples') : stats.Summarises samples' where
  min_mem := hperm.mem_iff.mp h.min_mem
  min_le := fun x hx => h.min_le x (hperm.mem_iff.mpr hx)
  max_mem := hperm.mem_iff.mp h.max_mem
  le_max := fun x hx => h.le_max x (hperm.mem_iff.mpr hx)
  median_mem := hperm.mem_iff.mp h.median_mem
  below := by
    rw [← hperm.countP_eq, ← hperm.length_eq]
    exact h.below
  upTo := by
    rw [← hperm.countP_eq, ← hperm.length_eq]
    exact h.upTo
  spread_eq := h.spread_eq

end Summarises

/-- **THE SUMMARY** of some figures is what is computed. -/
theorem ofSamples?_eq_some_iff : ofSamples? samples = some stats ↔ stats.Summarises samples := by
  constructor
  · exact summarises_of_ofSamples?
  · intro h
    obtain ⟨stats', hstats'⟩ := exists_ofSamples? (List.ne_nil_of_mem h.min_mem)
    rw [h.unique (summarises_of_ofSamples? hstats')]
    exact hstats'

theorem ofSamples?_eq_none_iff : ofSamples? samples = none ↔ samples = [] := by
  constructor
  · intro hnone
    refine Decidable.byContradiction fun hne => ?_
    obtain ⟨stats, hstats⟩ := exists_ofSamples? hne
    rw [hnone] at hstats
    exact nomatch hstats
  · rintro rfl
    cases hstats : ofSamples? [] with
    | none => rfl
    | some stats => exact nomatch (summarises_of_ofSamples? hstats).min_mem

/-- Figures in another order have the same statistics. -/
theorem ofSamples?_perm {samples' : List UInt64} (hperm : samples.Perm samples') :
    ofSamples? samples = ofSamples? samples' := by
  refine Option.ext fun stats => ?_
  rw [ofSamples?_eq_some_iff, ofSamples?_eq_some_iff]
  exact ⟨fun h => h.perm hperm, fun h => h.perm hperm.symm⟩

/-- **ORDER STATISTICS.**  There are statistics of all figures but none; they are the one
    summary of them by rank, the median between the extremes; and they are the same in
    whatever order the figures come. -/
theorem order_statistics (samples : List UInt64) :
    (ofSamples? samples = none ↔ samples = []) ∧
    (∀ stats, ofSamples? samples = some stats ↔ stats.Summarises samples) ∧
    (∀ stats, ofSamples? samples = some stats →
      stats.min ≤ stats.median ∧ stats.median ≤ stats.max) ∧
    ∀ samples', samples.Perm samples' → ofSamples? samples' = ofSamples? samples := by
  refine ⟨ofSamples?_eq_none_iff, fun _ => ofSamples?_eq_some_iff, ?_,
    fun _ hperm => (ofSamples?_perm hperm).symm⟩
  intro stats hstats
  have hsummary := summarises_of_ofSamples? hstats
  exact ⟨hsummary.min_le _ hsummary.median_mem, hsummary.le_max _ hsummary.median_mem⟩

/-- Of four figures the lower one of the middle two is the median. -/
theorem order_statistics_even :
    let samples : List UInt64 := [40, 10, 30, 20]
    let stats : Statistics := ⟨20, 10, 40, 150⟩
    stats.Summarises samples ∧ samples.Perm [10, 20, 30, 40] ∧
      ofSamples? [10, 20, 30, 40] = some stats := by
  intro samples stats
  have hsummary : stats.Summarises samples :=
    { min_mem := by decide
      min_le := by simp [samples, stats]
      max_mem := by decide
      le_max := by simp [samples, stats]
      median_mem := by decide
      below := by decide
      upTo := by decide
      spread_eq := by decide +kernel }
  have hperm : samples.Perm [10, 20, 30, 40] := by decide
  obtain ⟨-, hcomputed, -, hsame⟩ := order_statistics samples
  exact ⟨hsummary, hperm, (hsame _ hperm).trans ((hcomputed stats).mpr hsummary)⟩

end Statistics

end BenchSweep
