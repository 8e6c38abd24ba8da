import BenchSweep.Proofs.Distinct
import BenchSweep.Proofs.Sweep.Cells
import BenchSweep.Suite.Builtin

/-! # Walking along a sweep hands out its nested product

    `Cursor.collect` asks a cursor for the next trial until there is none.  A sweep
    whose trials can be counted has a start, and from there that gives the nested
    product, trial by trial (`Cursor.collect_start`).  The lists of an accepted
    suite and of accepted dimensions repeat nothing, so no repetition of any
    configuration comes up twice (`Sweep.nodup_places`). -/

namespace BenchSweep

namespace Cursor

/-- Whatever a cursor hands out is not to come any more. -/
theorem remaining_next {c c' : Cursor} {t : Trial} (h : c.next = (some t, c')) :
    c'.remaining < c.remaining := by
  rw [next] at h
  by_cases hlt : c.position < c.total
  · rw [if_pos hlt] at h
    have hc' : c' = { c with position := c.position + 1 } := (congrArg Prod.snd h).symm
    rw [hc']
    show c.total - (c.position + 1) < c.total - c.position
    omega
  · rw [if_neg hlt] at h
    exact nomatch congrArg Prod.fst h

/-- All trials that are still to come, each asked for in turn. -/
def collect (c : Cursor) : List Trial :=
  match _h : c.next with
  | (none, _)    => []
  | (some t, c') => t :: collect c'
termination_by c.remaining
decreasing_by exact remaining_next _h

theorem collect_of_next_none {c c' : Cursor} (h : c.next = (none, c')) : c.collect = [] := by
  rw [collect]
  split
  · rfl
  · next hsome => exact nomatch congrArg Prod.fst (h.symm.trans hsome)

theorem collect_of_next_some {c c' : Cursor} {t : Trial} (h : c.next = (some t, c')) :
    c.collect = t :: c'.collect := by
  rw [collect]
  split
  · next hnone => exact nomatch congrArg Prod.fst (h.symm.trans hnone)
  · next hsome =>
      obtain ⟨ht, hc⟩ := Prod.mk.inj (h.symm.trans hsome)
      rw [Option.some.inj ht, hc]

/-- A cursor collects the part of the nested product behind it, if it knows the
    number of trials. -/
theorem collect_eq_drop (c : Cursor) (hcount : c.total = c.sweep.trials.length) :
    c.collect = c.sweep.trials.drop c.position := by
  induction hn : c.remaining generalizing c with
  | zero =>
      have hend : ¬ c.position < c.total := by
        have h0 : c.total - c.position = 0 := hn
        omega
      have hnext : c.next = (none, c) := if_neg hend
      rw [collect_of_next_none hnext, List.drop_eq_nil_of_le (by omega)]
  | succ n ih =>
      have hlt : c.position < c.total := by
        have h0 : c.total - c.position = n + 1 := hn
        omega
      have hmem : c.position < c.sweep.trials.length := hcount ▸ hlt
      have hnext : c.next
          = (some c.sweep.trials[c.position], { c with position := c.position + 1 }) := by
        rw [next, if_pos hlt, Sweep.trialAt?_eq_getElem?, List.getElem?_eq_getElem hmem]
      have hrest := ih { c with position := c.position + 1 } hcount (by
        show c.total - (c.position + 1) = n
        have h0 : c.total - c.position = n + 1 := hn
        omega)
      rw [collect_of_next_some hnext, hrest, List.drop_eq_getElem_cons hmem]

/-- A sweep whose trials can be counted has a start, which knows their number. -/
theorem start?_of_lt {s : Sweep} (hlt : s.trials.length < 2 ^ 64) :
    start? s = some ⟨s, 0, s.trials.length⟩ := by
  rw [start?, Sweep.length?_of_lt hlt]
  rfl

/-- From its start, a sweep is collected as its nested product. -/
theorem collect_start (s : Sweep) : (Cursor.mk s 0 s.trials.length).collect = s.trials :=
  collect_eq_drop _ rfl

end Cursor

/-! ## Every combination once -/

/-- Rows with different names do not share an element if each element tells the
    name of its row. -/
theorem nodup_flatMap_of_tag {α β γ : Type} {xs : List α} {f : α → List β} (tag : β → γ)
    (name : α → γ) (htag : ∀ x ∈ xs, ∀ y ∈ f x, tag y = name x)
    (hxs : (xs.map name).Nodup) (hf : ∀ x ∈ xs, (f x).Nodup) : (xs.flatMap f).Nodup := by
  rw [List.nodup_flatMap]
  refine ⟨hf, ?_⟩
  refine (List.pairwise_map.mp hxs).imp_of_mem ?_
  intro x x' hx hx' hne y hy hy'
  exact hne ((htag x hx y hy).symm.trans (htag x' hx' y hy'))

namespace Sweep

variable (s : Sweep)

/-- The cells of a sweep have different keys if its lists repeat nothing. -/
theorem nodup_keys (hv : (s.suite.variants.map (·.name)).Nodup) (ht : s.dims.threads.Nodup)
    (hr : s.dims.ratios.Nodup) : (s.cells.map Cell.key).Nodup := by
  have hkeys : s.cells.map Cell.key
      = s.suite.variants.flatMap fun v => s.dims.threads.flatMap fun t =>
          s.dims.ratios.map fun r => (⟨s.suite.name, v.name, t, r⟩ : Key) := by
    simp only [cells, List.map_flatMap, List.map_map]
    rfl
  rw [hkeys]
  refine nodup_flatMap_of_tag Key.variant Variant.name ?_ hv ?_
  · intro v _ κ hκ
    obtain ⟨t, -, hκ⟩ := List.mem_flatMap.mp hκ
    obtain ⟨r, -, rfl⟩ := List.mem_map.mp hκ
    rfl
  · intro v _
    refine nodup_flatMap_of_tag Key.threads id ?_ (by rwa [List.map_id]) ?_
    · intro t _ κ hκ
      obtain ⟨r, -, rfl⟩ := List.mem_map.mp hκ
      rfl
    · intro t _
      exact hr.map fun r r' h => congrArg Key.ratio h

/-- Where a trial stands: its configuration and its repetition. -/
def place (t : Trial) : Key × Nat := (t.key, t.repetition.toNat)

/-- The places of a sweep's trials: every repetition of every key. -/
theorem map_place_trials : s.trials.map place
    = (s.cells.map Cell.key).flatMap fun κ =>
        (List.range s.dims.runs.val.toNat).map fun k => (κ, k) := by
  rw [trials_eq_cells, List.map_flatMap, List.flatMap_map]
  congr 1
  funext c
  rw [Cell.trials, List.map_map]
  refine List.map_congr_left ?_
  intro k hk
  show (c.key, (UInt32.ofNat k).toNat) = (c.key, k)
  rw [toNat_ofNat_repetition (List.mem_range.mp hk)]

/-- No two trials stand at the same place. -/
theorem nodup_places (hkeys : (s.cells.map Cell.key).Nodup) : (s.trials.map place).Nodup := by
  rw [map_place_trials]
  refine nodup_flatMap_of_tag Prod.fst id ?_ (by rwa [List.map_id]) ?_
  · intro κ _ p hp
    obtain ⟨k, -, rfl⟩ := List.mem_map.mp hp
    rfl
  · intro κ _
    exact List.nodup_range.map fun k k' h => congrArg Prod.snd h

end Sweep

/-- **THE SWEEP IS THE NESTED PRODUCT** of the accepted lists, in their order and
    with repetitions innermost: its length is the product of their lengths, and
    each combination comes up exactly once. -/
theorem collect_eq_nested_product {name : SuiteName} {executable : String}
    {encoding : Encoding} {keys : Option UInt64} {marker : String} {variants : List Variant}
    {suite : Suite} {duration : TrialDuration} {runs : RunCount} {threads : List ThreadCount}
    {ratios : List Permil} {dims : Dimensions}
    (hsuite : Suite.make name executable encoding keys marker variants = .ok suite)
    (hdims : Dimensions.make duration runs threads ratios = .ok dims)
    (hfit : variants.length * threads.length * ratios.length * runs.val.toNat < 2 ^ 64) :
    let sweep : Sweep := ⟨suite, dims⟩
    ∃ start configurations,
      Cursor.start? sweep = some start ∧ sweep.configurations? = some configurations ∧
      let trials := start.collect
      let places := trials.map fun t => (t.key, t.repetition.toNat)
      trials = (variants.flatMap fun v => threads.flatMap fun t => ratios.flatMap fun r =>
        (List.range runs.val.toNat).map fun k =>
          { suite, variant := v, threads := t, ratio := r, repetition := UInt32.ofNat k }) ∧
      sweep.length? = some trials.length ∧
      trials.length = variants.length * threads.length * ratios.length * runs.val.toNat ∧
      trials.length = configurations * runs.val.toNat ∧
      places.Nodup ∧
      ∀ v ∈ variants, ∀ t ∈ threads, ∀ r ∈ ratios, ∀ k < runs.val.toNat,
        places.count (⟨name, v.name, t, r⟩, k) = 1 := by
  obtain ⟨-, hv, rfl⟩ := (Suite.make_eq_ok_iff ..).mp hsuite
  obtain ⟨⟨-, ht⟩, ⟨-, hr⟩, rfl⟩ := (Dimensions.make_eq_ok_iff ..).mp hdims
  intro sweep
  have hcells : sweep.cells.length = variants.length * threads.length * ratios.length :=
    (Sweep.length_cells _).trans (Nat.mul_assoc ..).symm
  have hlength : sweep.trials.length = sweep.cells.length * runs.val.toNat := by
    rw [Sweep.length_trials, Sweep.length_cells]
  have hlt : sweep.trials.length < 2 ^ 64 := by
    rw [hlength, hcells]
    exact hfit
  refine ⟨_, _, Cursor.start?_of_lt hlt, Sweep.configurations?_of_lt hlt, ?_⟩
  intro trials places
  have htrials : trials = sweep.trials := Cursor.collect_start sweep
  have hplaces : places.Nodup := by
    show (trials.map Sweep.place).Nodup
    rw [htrials]
    exact sweep.nodup_places (sweep.nodup_keys hv ht hr)
  refine ⟨htrials, ?_, ?_, ?_, hplaces, ?_⟩
  · rw [htrials]
    exact Sweep.length?_of_lt hlt
  · rw [htrials, hlength, hcells]
  · rw [htrials, hlength]
  · intro v hvm t htm r hrm k hk
    refine List.count_eq_one_of_mem hplaces ?_
    show _ ∈ trials.map Sweep.place
    rw [htrials, sweep.map_place_trials]
    refine List.mem_flatMap.mpr ⟨⟨name, v.name, t, r⟩, ?_, ?_⟩
    · refine List.mem_map.mpr ⟨⟨sweep.suite, v, t, r⟩, ?_, rfl⟩
      exact List.mem_flatMap.mpr ⟨v, hvm, List.mem_flatMap.mpr ⟨t, htm,
        List.mem_map.mpr ⟨r, hrm, rfl⟩⟩⟩
    · exact List.mem_map.mpr ⟨k, List.mem_range.mpr hk, rfl⟩

/-- Two skip lists at two thread counts and two ratios, each twice: sixteen
    trials, and the last combination is among them once. -/
theorem collect_skiplists :
    let variants : List Variant :=
      [⟨⟨"hsskip-orcorig", by decide⟩, "original"⟩, ⟨⟨"hsskip-orc", by decide⟩, ""⟩]
    let suite := builtinSuite "bin" "set-skiplist-1m" 1000000 variants (by decide)
    let runs : RunCount := ⟨2, by decide⟩
    let threads : List ThreadCount := [⟨4, by decide⟩, ⟨1, by decide⟩]
    let ratios : List Permil := [⟨100, by decide⟩, ⟨10, by decide⟩]
    let dims : Dimensions := ⟨⟨20, by decide, by decide⟩, runs, threads, ratios⟩
    Suite.make suite.name suite.executable .flags suite.keys defaultMarker variants = .ok suite ∧
    Dimensions.make dims.duration runs threads ratios = .ok dims ∧
    ∃ start, Cursor.start? ⟨suite, dims⟩ = some start ∧
      (Sweep.mk suite dims).length? = some 16 ∧ start.collect.length = 16 ∧
      (start.collect.map fun t => (t.key, t.repetition.toNat)).count
        (⟨suite.name, ⟨"hsskip-orc", by decide⟩, ⟨1, by decide⟩, ⟨10, by decide⟩⟩, 1)
        = 1 := by
  intro variants suite runs threads ratios dims
  have hsuite : Suite.make suite.name suite.executable .flags suite.keys defaultMarker variants
      = .ok suite := (Suite.make_eq_ok_iff ..).mpr ⟨by simp [variants], by decide +kernel, rfl⟩
  have hdims : Dimensions.make dims.duration runs threads ratios = .ok dims :=
    (Dimensions.make_eq_ok_iff ..).mpr ⟨by decide, by decide, rfl⟩
  obtain ⟨start, _, hstart, -, -, hlength, hproduct, -, -, honce⟩ :=
    collect_eq_nested_product hsuite hdims (by decide)
  rw [hproduct] at hlength
  refine ⟨hsuite, hdims, start, hstart, hlength, hproduct, ?_⟩
  exact honce ⟨⟨"hsskip-orc", by decide⟩, ""⟩ (by simp [variants]) _ (by simp [threads])
    _ (by simp [ratios]) 1 (by decide)

end BenchSweep
