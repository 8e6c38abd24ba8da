import BenchSweep.Sweep.Basic
import Mathlib.Data.List.Nodup

/-! # The cells of a sweep

    A sweep is a grid: a cell of it is one configuration, and the trials of a
    cell are its repetitions.  The nested product `Sweep.trials` is the list of
    cells with every cell replaced by its trials (`Sweep.trials_eq_cells`), and
    the digit by digit decoding `Sweep.trialAt?` is the look-up in that list
    (`Sweep.trialAt?_eq_getElem?`). -/

namespace BenchSweep

/-- One configuration of a sweep, with the suite it belongs to. -/
structure Cell where
  suite   : Suite
  variant : Variant
  threads : ThreadCount
  ratio   : Permil
deriving DecidableEq

namespace Cell

/-- The key a cell's aggregate is published under. -/
def key (c : Cell) : Key :=
  { suite := c.suite.name, variant := c.variant.name, threads := c.threads, ratio := c.ratio }

/-- One repetition of a cell. -/
def trial (c : Cell) (repetition : Nat) : Trial :=
  { suite := c.suite, variant := c.variant, threads := c.threads, ratio := c.ratio,
    repetition := UInt32.ofNat repetition }

/-- All repetitions of a cell in order. -/
def trials (c : Cell) (runs : RunCount) : List Trial :=
  (List.range runs.val.toNat).map c.trial

@[simp] theorem key_trial (c : Cell) (k : Nat) : (c.trial k).key = c.key := rfl

@[simp] theorem length_trials (c : Cell) (runs : RunCount) :
    (c.trials runs).length = runs.val.toNat := by
  simp [trials]

end Cell

/-- A repetition below a repetition count is its own 32-bit word. -/
theorem toNat_ofNat_repetition {runs : RunCount} {k : Nat} (h : k < runs.val.toNat) :
    (UInt32.ofNat k).toNat = k := by
  have hword : runs.val.toNat < 2 ^ 32 := runs.val.toNat_lt
  rw [UInt32.toNat_ofNat']
  exact Nat.mod_eq_of_lt (by omega)

namespace Sweep

/-- The cells of a sweep: variants outermost, then thread counts, then ratios. -/
def cells (s : Sweep) : List Cell :=
  s.suite.variants.flatMap fun v =>
    s.dims.threads.flatMap fun t =>
      s.dims.ratios.map fun r => { suite := s.suite, variant := v, threads := t, ratio := r }

theorem suite_of_mem_cells {s : Sweep} {c : Cell} (h : c ∈ s.cells) : c.suite = s.suite := by
  obtain ⟨v, -, h⟩ := List.mem_flatMap.mp h
  obtain ⟨t, -, h⟩ := List.mem_flatMap.mp h
  obtain ⟨r, -, rfl⟩ := List.mem_map.mp h
  rfl

/-- The nested product goes through the cells. -/
theorem trials_eq_cells (s : Sweep) : s.trials = s.cells.flatMap (·.trials s.dims.runs) := by
  rw [trials, cells, List.flatMap_assoc]
  congr 1
  funext v
  rw [List.flatMap_assoc]
  congr 1
  funext t
  rw [List.flatMap_map]
  rfl

theorem suite_of_mem_trials {s : Sweep} {t : Trial} (h : t ∈ s.trials) : t.suite = s.suite := by
  rw [trials_eq_cells] at h
  obtain ⟨c, hc, h⟩ := List.mem_flatMap.mp h
  obtain ⟨k, -, rfl⟩ := List.mem_map.mp h
  exact suite_of_mem_cells hc

@[simp] theorem length_cells (s : Sweep) :
    s.cells.length = s.suite.variants.length * s.dims.perVariant := by
  simp [cells, Dimensions.perVariant, List.length_flatMap]

@[simp] theorem length_trials (s : Sweep) :
    s.trials.length = s.suite.variants.length * s.dims.perVariant * s.dims.runs.val.toNat := by
  rw [trials_eq_cells, List.length_flatMap, ← length_cells]
  simp

/-! ## Counts -/

section Counts

variable (s : Sweep)

/-- A sweep has a length just if its trials can be counted, and then it is their
    number. -/
theorem length?_eq_some_iff {n : Nat} :
    s.length? = some n ↔ s.trials.length < 2 ^ 64 ∧ s.trials.length = n := by
  rw [length_trials, length?, Option.bind_eq_bind, Option.bind_eq_some_iff]
  simp only [configurations?, word64?_eq_some_iff]
  constructor
  · rintro ⟨_, ⟨-, rfl⟩, hlt, hn⟩
    exact ⟨hlt, hn⟩
  · rintro ⟨hlt, hn⟩
    have hle := Nat.le_mul_of_pos_right (s.suite.variants.length * s.dims.perVariant)
      s.dims.runs.toNat_pos
    exact ⟨_, ⟨Nat.lt_of_le_of_lt hle hlt, rfl⟩, hlt, hn⟩

theorem length?_eq_none_iff : s.length? = none ↔ 2 ^ 64 ≤ s.trials.length := by
  rw [Option.eq_none_iff_forall_ne_some, ← Nat.not_lt]
  simp only [ne_eq, length?_eq_some_iff]
  exact ⟨fun h hlt => h _ ⟨hlt, rfl⟩, fun h _ hn => h hn.1⟩

variable {s}

theorem length?_of_lt (hlt : s.trials.length < 2 ^ 64) : s.length? = some s.trials.length :=
  s.length?_eq_some_iff.mpr ⟨hlt, rfl⟩

/-- Where trials can be counted, so can cells. -/
theorem configurations?_of_lt (hlt : s.trials.length < 2 ^ 64) :
    s.configurations? = some s.cells.length := by
  have hle := Nat.le_mul_of_pos_right s.cells.length s.dims.runs.toNat_pos
  rw [length_cells, ← length_trials, ← length_cells] at hle
  rw [configurations?, ← length_cells]
  exact word64?_of_lt (Nat.lt_of_le_of_lt hle hlt)

end Counts

/-! ## Decoding a position -/

/-- A list of rows of one length is addressed by quotient and remainder. -/
theorem getElem?_flatMap_of_length {α β : Type} {f : α → List β} {n : Nat} (hn : 0 < n)
    (xs : List α) (h : ∀ x ∈ xs, (f x).length = n) (i : Nat) :
    (xs.flatMap f)[i]? = xs[i / n]?.bind fun x => (f x)[i % n]? := by
  induction xs generalizing i with
  | nil => simp
  | cons x xs ih =>
      have hx : (f x).length = n := h x List.mem_cons_self
      rw [List.flatMap_cons]
      by_cases hi : i < n
      · rw [List.getElem?_append_left (by omega), Nat.div_eq_of_lt hi, Nat.mod_eq_of_lt hi]
        simp
      · have hle : n ≤ i := Nat.le_of_not_lt hi
        have hdiv : i / n = (i - n) / n + 1 := Nat.div_eq_sub_div hn hle
        have hmod : i % n = (i - n) % n := Nat.mod_eq_sub_mod hle
        rw [List.getElem?_append_right (by omega), hx,
          ih (fun y hy => h y (List.mem_cons_of_mem _ hy)), hdiv, hmod, List.getElem?_cons_succ]

/-- The cell at a position: ratio is the lowest digit, then thread count, then
    variant. -/
theorem getElem?_cells (s : Sweep) (i : Nat) :
    s.cells[i]? = do
      let ratio ← s.dims.ratios[i % s.dims.ratios.length]?
      let thread ← s.dims.threads[i / s.dims.ratios.length % s.dims.threads.length]?
      let variant ← s.suite.variants[i / s.dims.ratios.length / s.dims.threads.length]?
      return { suite := s.suite, variant, threads := thread, ratio } := by
  obtain ⟨suite, ⟨duration, runs, threads, ratios⟩⟩ := s
  show (suite.variants.flatMap fun v => threads.flatMap fun t => ratios.map fun r =>
    ({ suite, variant := v, threads := t, ratio := r } : Cell))[i]? = _
  rcases Nat.eq_zero_or_pos ratios.length with hR | hR
  · simp [List.eq_nil_of_length_eq_zero hR]
  rcases Nat.eq_zero_or_pos threads.length with hT | hT
  · simp [List.eq_nil_of_length_eq_zero hT]
  -- outermost digit first: rows of T * R cells, and in each of them rows of R cells
  rw [getElem?_flatMap_of_length (n := threads.length * ratios.length) (Nat.mul_pos hT hR) _
    (fun v _ => by simp [List.length_flatMap])]
  have hvariant : i / (threads.length * ratios.length) = i / ratios.length / threads.length := by
    rw [Nat.mul_comm, Nat.div_div_eq_div_mul]
  have hthread : i % (threads.length * ratios.length) / ratios.length
      = i / ratios.length % threads.length := Nat.mod_mul_left_div_self ..
  have hratio : i % (threads.length * ratios.length) % ratios.length = i % ratios.length :=
    Nat.mod_mul_left_mod ..
  have hrow : ∀ v : Variant, (threads.flatMap fun t => ratios.map fun r =>
      ({ suite, variant := v, threads := t, ratio := r } : Cell))[
        i % (threads.length * ratios.length)]?
      = threads[i / ratios.length % threads.length]?.bind fun t =>
          ratios[i % ratios.length]?.map fun r => ⟨suite, v, t, r⟩ := by
    intro v
    rw [getElem?_flatMap_of_length hR _ (fun t _ => by simp), hthread, hratio]
    simp
  rw [hvariant]
  simp only [hrow]
  have hr : i % ratios.length < ratios.length := Nat.mod_lt _ hR
  have ht : i / ratios.length % threads.length < threads.length := Nat.mod_lt _ hT
  rw [List.getElem?_eq_getElem hr, List.getElem?_eq_getElem ht]
  cases suite.variants[i / ratios.length / threads.length]? with
  | none => rfl
  | some v => rfl

/-- **DECODING** a position looks it up in the nested product. -/
theorem trialAt?_eq_getElem? (s : Sweep) (position : Nat) :
    s.trialAt? position = s.trials[position]? := by
  have hpos := s.dims.runs.toNat_pos
  rw [trials_eq_cells, getElem?_flatMap_of_length hpos _ (fun c _ => by simp), getElem?_cells]
  have hrep : position % s.dims.runs.val.toNat < s.dims.runs.val.toNat := Nat.mod_lt _ hpos
  have hcell : ∀ c : Cell, (c.trials s.dims.runs)[position % s.dims.runs.val.toNat]?
      = some (c.trial (position % s.dims.runs.val.toNat)) := by
    intro c
    simp [Cell.trials, hrep]
  simp only [hcell]
  rw [trialAt?]
  simp only [Option.bind_eq_bind, Option.bind_assoc, Option.pure_def, Option.bind_some]
  rfl

end Sweep

end BenchSweep
