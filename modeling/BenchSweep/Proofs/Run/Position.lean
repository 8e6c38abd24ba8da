import BenchSweep.Proofs.Run.Scenario
import BenchSweep.Proofs.Sweep.Product
import Mathlib.Algebra.GroupWithZero.Nat
import Mathlib.Data.List.Flatten

/-! # Positions in a run

    A run goes through the cells of its configuration, and through the
    repetitions of each.  Where it stands is given by the cells that are done and
    the trials of the next one that have run; the summary, the aggregator and the
    history belong to that position (`Scenario.progress`, `Scenario.history`).
    At most one configuration is open at a time, and it is the one whose trials
    are running. -/

namespace BenchSweep

namespace Config

variable (config : Config)

/-- The sweeps of a configuration, one for each suite. -/
def sweeps : List Sweep := config.catalog.suites.map fun suite => ⟨suite, config.sweep⟩

/-- The cells of a configuration, suite by suite. -/
def cells : List Cell := config.sweeps.flatMap (·.cells)

/-- The trials of a configuration, suite by suite. -/
def trials : List Trial := config.sweeps.flatMap (·.trials)

/-- How often each cell is repeated. -/
def runs : Nat := config.sweep.runs.val.toNat

/-- The trials of all suites together can be counted by a 64-bit word. -/
def Fits : Prop :=
  (config.catalog.suites.map fun s => s.variants.length * config.sweep.threads.length
    * config.sweep.ratios.length * config.runs).sum < 2 ^ 64

/-- The trials are those of the cells. -/
theorem trials_eq_cells : config.trials = config.cells.flatMap (·.trials config.sweep.runs) := by
  rw [trials, cells, sweeps, List.flatMap_assoc, List.flatMap_map, List.flatMap_map]
  congr 1
  funext suite
  exact Sweep.trials_eq_cells _

/-- A cell belongs to a suite of the catalog. -/
theorem suite_of_mem_cells {c : Cell} (hc : c ∈ config.cells) : c.suite ∈ config.catalog.suites := by
  rw [cells, sweeps, List.flatMap_map] at hc
  obtain ⟨suite, hsuite, hc⟩ := List.mem_flatMap.mp hc
  rwa [Sweep.suite_of_mem_cells hc]

/-- The cells are the nested product over the catalog. -/
theorem cells_eq_product : config.cells
    = config.catalog.suites.flatMap fun s => s.variants.flatMap fun v =>
        config.sweep.threads.flatMap fun t =>
          config.sweep.ratios.map fun r => ⟨s, v, t, r⟩ := by
  rw [cells, sweeps, List.flatMap_map]
  rfl

/-- The number of cells. -/
theorem length_cells : config.cells.length
    = (config.catalog.suites.map fun s => s.variants.length * config.sweep.threads.length
        * config.sweep.ratios.length).sum := by
  rw [cells, sweeps, List.flatMap_map, List.length_flatMap]
  congr 1
  refine List.map_congr_left ?_
  intro s _
  exact (Sweep.length_cells _).trans (Nat.mul_assoc ..).symm

/-- The trials of a suite, as the product of what is varied. -/
theorem length_suiteTrials (suite : Suite) :
    (Sweep.mk suite config.sweep).trials.length
      = suite.variants.length * config.sweep.threads.length * config.sweep.ratios.length
        * config.runs := by
  rw [Sweep.length_trials, Dimensions.perVariant, ← Nat.mul_assoc, runs]

/-- The number of trials. -/
theorem length_trials : config.trials.length
    = (config.catalog.suites.map fun s => s.variants.length * config.sweep.threads.length
        * config.sweep.ratios.length * config.runs).sum := by
  rw [trials, sweeps, List.flatMap_map, List.length_flatMap]
  exact congrArg List.sum (List.map_congr_left fun s _ => config.length_suiteTrials s)

theorem fits_iff : config.Fits ↔ config.trials.length < 2 ^ 64 := by
  rw [Fits, length_trials]

/-- The trials of some cells. -/
theorem length_flatMap_trials (cs : List Cell) :
    (cs.flatMap (·.trials config.sweep.runs)).length = cs.length * config.runs := by
  induction cs with
  | nil => exact (Nat.zero_mul _).symm
  | cons c cs ih =>
      rw [List.flatMap_cons, List.length_append, ih, Cell.length_trials, List.length_cons,
        Nat.succ_mul, Nat.add_comm]
      rfl

/-- Every cell has a trial. -/
theorem length_le_length_trials (cs : List Cell) :
    cs.length ≤ (cs.flatMap (·.trials config.sweep.runs)).length := by
  rw [length_flatMap_trials]
  exact Nat.le_mul_of_pos_right _ config.sweep.runs.toNat_pos

variable {config}

/-- If all trials can be counted, so can those of every suite. -/
theorem Fits.sweep (hfit : config.Fits) {suite : Suite} (hsuite : suite ∈ config.catalog.suites) :
    (Sweep.mk suite config.sweep).trials.length < 2 ^ 64 := by
  refine Nat.lt_of_le_of_lt ?_ (config.fits_iff.mp hfit)
  have hsub := (List.singleton_sublist.mpr hsuite).flatMap fun s => (Sweep.mk s config.sweep).trials
  rw [List.flatMap_singleton] at hsub
  rw [trials, sweeps, List.flatMap_map]
  exact hsub.length_le

end Config

namespace Cell

variable (c : Cell)

/-- The first repetitions of a cell. -/
def first (n : Nat) : List Trial := (List.range n).map c.trial

@[simp] theorem length_first (n : Nat) : (c.first n).length = n := by
  simp [first]

theorem first_succ (n : Nat) : c.first (n + 1) = c.first n ++ [c.trial n] := by
  simp [first, List.range_succ]

end Cell

/-- The first trials of some cells: those of whole cells, and a part of the next. -/
theorem take_flatMap_trials (cs : List Cell) (runs : RunCount) (q r : Nat) :
    (cs.flatMap (·.trials runs)).take (q * runs.val.toNat + r)
      = (cs.take q).flatMap (·.trials runs)
        ++ ((cs.drop q).flatMap (·.trials runs)).take r := by
  induction q generalizing cs with
  | zero => rw [Nat.zero_mul, Nat.zero_add, List.take_zero, List.flatMap_nil, List.drop_zero,
      List.nil_append]
  | succ q ih =>
      cases cs with
      | nil => rw [List.flatMap_nil, List.take_nil, List.take_nil, List.drop_nil, List.flatMap_nil,
          List.take_nil, List.append_nil]
      | cons c cs =>
          have hcount : (q + 1) * runs.val.toNat + r
              = (c.trials runs).length + (q * runs.val.toNat + r) := by
            rw [Cell.length_trials, Nat.succ_mul]
            omega
          rw [List.flatMap_cons, hcount, List.take_length_add_append, ih, List.take_succ_cons,
            List.drop_succ_cons, List.flatMap_cons, List.append_assoc]

/-- A part of the first of some cells. -/
theorem take_trials_cons (c : Cell) (cs : List Cell) {runs : RunCount} {n : Nat}
    (hn : n ≤ runs.val.toNat) : ((c :: cs).flatMap (·.trials runs)).take n = c.first n := by
  have hle : n ≤ (c.trials runs).length := by
    rw [Cell.length_trials]
    exact hn
  rw [List.flatMap_cons, List.take_append_of_le_length hle, Cell.trials, ← List.map_take,
    List.take_range, Nat.min_eq_left hn]
  rfl

namespace Config

variable {config : Config} {done rest : List Cell} {c : Cell} {n : Nat}

/-- The first trials of a configuration are those of its first cells, and the first
    repetitions of the next one. -/
theorem take_trials (hcells : config.cells = done ++ c :: rest) (hn : n ≤ config.runs) :
    config.trials.take (done.length * config.runs + n)
      = done.flatMap (·.trials config.sweep.runs) ++ c.first n := by
  rw [config.trials_eq_cells]
  refine (take_flatMap_trials _ _ _ _).trans ?_
  rw [hcells, List.take_left, List.drop_left, take_trials_cons c rest hn]

/-- What is done at a position are the first trials of all. -/
theorem prefix_trials (hcells : config.cells = done ++ c :: rest) (hn : n ≤ config.runs) :
    done.flatMap (·.trials config.sweep.runs) ++ c.first n <+: config.trials := by
  rw [← take_trials hcells hn]
  exact List.take_prefix _ _

/-- A cell that is not complete keeps the trials from being all. -/
theorem lt_length_trials (hcells : config.cells = done ++ c :: rest) (hn : n < config.runs) :
    done.length * config.runs + n < config.trials.length := by
  rw [config.trials_eq_cells, length_flatMap_trials, hcells, List.length_append,
    List.length_cons, Nat.add_mul, Nat.succ_mul]
  omega

end Config

/-- The counts of a run that has had these outcomes and published these
    aggregates. -/
def Summary.of (os : List Outcome) (as : List Aggregate) : Summary :=
  { trials := os.length, failedTrials := (failuresOf os).length
    aggregates := as.length, failedAggregates := as.countP (·.isFailed) }

namespace Summary

variable (os : List Outcome) (as : List Aggregate)

/-- One more trial. -/
theorem countTrial_of (o : Outcome) : (Summary.of os as).countTrial o = .of (os ++ [o]) as := by
  cases o with
  | figure ops => simp [Summary.of, countTrial, failuresOf, Outcome.failure?]
  | failed why => simp [Summary.of, countTrial, failuresOf, Outcome.failure?]

/-- One more aggregate. -/
theorem countAggregate_of (a : Aggregate) :
    (Summary.of os as).countAggregate a = .of os (as ++ [a]) := by
  simp only [Summary.of, countAggregate, List.length_append, List.length_singleton,
    List.countP_append, List.countP_singleton]
  congr 1
  cases a.isFailed with
  | true => rfl
  | false => rfl

variable {os as}

/-- Where no more aggregates have been published than trials have run, the trials say
    whether everything can be counted. -/
theorem of_fits_iff (hle : as.length ≤ os.length) :
    (Summary.of os as).Fits ↔ os.length < 2 ^ 64 := by
  have hfailed : (failuresOf os).length ≤ os.length := List.length_filterMap_le ..
  have hfailed' : as.countP (·.isFailed) ≤ as.length := List.countP_le_length
  constructor
  · exact fun h => h.trials
  · intro h
    exact ⟨h, Nat.lt_of_le_of_lt hfailed h, Nat.lt_of_le_of_lt hle h,
      Nat.lt_of_le_of_lt (Nat.le_trans hfailed' hle) h⟩

end Summary

/-- How many successes a configuration of a run needs. -/
def Config.required (config : Config) : Nat := max config.runner.minSuccesses.toNat 1

namespace Scenario

variable (sc : Scenario) (config : Config)

/-- The outcomes of some trials. -/
def outcomes (ts : List Trial) : List Outcome := ts.map sc.outcome

/-- The aggregate of a cell: the reduction of all its trials. -/
def aggregate (c : Cell) : Aggregate :=
  .ofOutcomes c.key config.runs config.required (sc.outcomes (c.trials config.sweep.runs))

/-- The deeds of a cell that is completed: those of its trials, and its record
    right after the last of them. -/
def cellDeeds (c : Cell) : History :=
  (c.trials config.sweep.runs).flatMap sc.deeds ++ [.record (sc.aggregate config c) true]

/-- The history of a run that has done some cells, and of the next one the trials
    `begun`. -/
def history (done : List Cell) (begun : List Trial) : History :=
  .header config.sweep (config.catalog.suites.map (·.name)) true ::
    (done.flatMap (sc.cellDeeds config) ++ begun.flatMap sc.deeds)

/-- What an aggregator holds of the open configuration. -/
def pendingOf : List Trial → List Pending
  | []      => []
  | t :: ts => [.ofOutcomes t.key (sc.outcomes (t :: ts))]

/-- The aggregator of a run that has begun a cell. -/
def aggregator (begun : List Trial) : Aggregator :=
  { runs := config.runs, minSuccesses := config.required, pending := sc.pendingOf begun }

/-- Where a run stands that has done some cells, and of the next one the trials
    `begun`. -/
def progress (done : List Cell) (begun : List Trial) : Progress :=
  { summary := .of (sc.outcomes (done.flatMap (·.trials config.sweep.runs) ++ begun))
      (done.map (sc.aggregate config))
    aggregator := sc.aggregator config begun }

/-! ## One more trial -/

variable {config : Config} {c : Cell} {n : Nat}

/-- What is held of a cell is its trials so far. -/
theorem pendingOf_first_succ : sc.pendingOf (c.first (n + 1))
    = [.ofOutcomes c.key (sc.outcomes (c.first (n + 1)))] := by
  have hcons : c.first (n + 1) = c.trial 0 :: (List.range n).map (c.trial ∘ Nat.succ) := by
    simp [Cell.first, List.range_succ_eq_map]
  rw [hcons]
  rfl

theorem outcomes_first_succ :
    sc.outcomes (c.first (n + 1)) = sc.outcomes (c.first n) ++ [sc.outcome (c.trial n)] := by
  rw [Cell.first_succ, outcomes, List.map_append]
  rfl

/-- The next result goes to the open configuration. -/
theorem absorb_first : Aggregator.absorb config.runs (sc.result (c.trial n))
      (sc.pendingOf (c.first n))
    = let p := Pending.ofOutcomes c.key (sc.outcomes (c.first (n + 1)))
      if Aggregator.completes config.runs (c.trial n).repetition p then (some p, [])
      else (none, [p]) := by
  cases n with
  | zero =>
      have hnil : sc.pendingOf (c.first 0) = [] := rfl
      rw [hnil, Aggregator.absorb_of_forall_ne (by simp), result_key, result_repetition]
      rfl
  | succ n =>
      have hsplit := @Aggregator.absorb_of_split config.runs (sc.result (c.trial (n + 1))) [] []
        (.ofOutcomes c.key (sc.outcomes (c.first (n + 1)))) (by simp) (by simp)
      rw [Pending.add_ofOutcomes, result_repetition] at hsplit
      rw [pendingOf_first_succ, outcomes_first_succ sc (n := n + 1)]
      exact hsplit

/-- A configuration is complete with the last of its repetitions. -/
theorem completes_first (hn : n < config.runs) :
    Aggregator.completes config.runs (c.trial n).repetition
      (.ofOutcomes c.key (sc.outcomes (c.first (n + 1)))) = true ↔ n + 1 = config.runs := by
  have hrep : (c.trial n).repetition.toNat = n := toNat_ofNat_repetition hn
  rw [Aggregator.completes_iff, hrep]
  simp only [Pending.ofOutcomes_seen, outcomes, List.length_map, Cell.length_first]
  omega

/-- The repetition of a result can be counted up. -/
theorem repetition_result_lt (hn : n < config.runs) :
    (sc.result (c.trial n)).repetition.toNat + 1 < 2 ^ 32 := by
  have hword : config.runs < 2 ^ 32 := config.sweep.runs.val.toNat_lt
  have hrep : (c.trial n).repetition.toNat = n := toNat_ofNat_repetition hn
  rw [result_repetition, hrep]
  omega

/-- A repetition that is not the last leaves its configuration open. -/
theorem push_open (hn : n + 1 < config.runs) :
    (sc.aggregator config (c.first n)).push? (sc.result (c.trial n))
      = some (none, sc.aggregator config (c.first (n + 1))) := by
  have hopen := mt (sc.completes_first (c := c) (Nat.lt_of_succ_lt hn)).mp (Nat.ne_of_lt hn)
  have habsorb : Aggregator.absorb config.runs (sc.result (c.trial n))
      (sc.pendingOf (c.first n)) = (none, sc.pendingOf (c.first (n + 1))) := by
    rw [absorb_first, pendingOf_first_succ]
    exact if_neg hopen
  rw [Aggregator.push?_of_lt (sc.repetition_result_lt (Nat.lt_of_succ_lt hn)), aggregator, habsorb]
  rfl

/-- The last repetition completes its configuration: the aggregate is that of the
    cell, and nothing is left open. -/
theorem push_last (hn : n + 1 = config.runs) :
    (sc.aggregator config (c.first n)).push? (sc.result (c.trial n))
      = some (some (sc.aggregate config c), sc.aggregator config []) := by
  have hlt : n < config.runs := Nat.lt_of_succ_le (Nat.le_of_eq hn)
  have hcomplete := (sc.completes_first (c := c) hlt).mpr hn
  have hall : c.first (n + 1) = c.trials config.sweep.runs := congrArg c.first hn
  have habsorb : Aggregator.absorb config.runs (sc.result (c.trial n))
      (sc.pendingOf (c.first n))
      = (some (.ofOutcomes c.key (sc.outcomes (c.trials config.sweep.runs))), []) := by
    rw [absorb_first, ← hall]
    exact if_pos hcomplete
  rw [Aggregator.push?_of_lt (sc.repetition_result_lt hlt), aggregator, habsorb]
  show some (some (Pending.reduce _ _ _), _) = _
  rw [Pending.reduce_ofOutcomes]
  rfl

variable (done : List Cell)

/-- The summary takes in the trial. -/
theorem summary_open :
    (sc.progress config done (c.first n)).summary.countTrial (sc.outcome (c.trial n))
      = (sc.progress config done (c.first (n + 1))).summary := by
  rw [progress, progress, Summary.countTrial_of, Cell.first_succ, ← List.append_assoc]
  simp only [outcomes, List.map_append, List.map_singleton]

/-- The summary takes in the last trial of a cell and its aggregate. -/
theorem summary_last (hn : n + 1 = config.runs) :
    ((sc.progress config done (c.first n)).summary.countTrial
        (sc.outcome (c.trial n))).countAggregate (sc.aggregate config c)
      = (sc.progress config (done ++ [c]) []).summary := by
  have hall : c.first (n + 1) = c.trials config.sweep.runs := congrArg c.first hn
  rw [summary_open, hall, progress, progress, Summary.countAggregate_of]
  simp

/-- The trials say whether the counts of a position fit: no cell is without one. -/
theorem summary_fits_iff (begun : List Trial) :
    (sc.progress config done begun).summary.Fits ↔
      (done.flatMap (·.trials config.sweep.runs) ++ begun).length < 2 ^ 64 := by
  have hle := config.length_le_length_trials done
  refine (Summary.of_fits_iff ?_).trans ?_
  · rw [List.length_map, outcomes, List.length_map, List.length_append]
    exact Nat.le_add_right_of_le hle
  · rw [outcomes, List.length_map]

/-- If all trials can be counted, so can those of a position. -/
theorem summary_fits (hfit : config.Fits) {rest : List Cell}
    (hcells : config.cells = done ++ c :: rest) (hn : n ≤ config.runs) :
    (sc.progress config done (c.first n)).summary.Fits := by
  rw [summary_fits_iff, ← Config.take_trials hcells hn]
  exact Nat.lt_of_le_of_lt (List.length_take_le' ..) (config.fits_iff.mp hfit)

/-- The history takes in the deeds of the trial. -/
theorem history_open :
    sc.history config done (c.first n) ++ sc.deeds (c.trial n)
      = sc.history config done (c.first (n + 1)) := by
  simp [history, Cell.first_succ]

/-- The history takes in the record of a cell. -/
theorem history_last :
    sc.history config done (c.trials config.sweep.runs) ++ [.record (sc.aggregate config c) true]
      = sc.history config (done ++ [c]) [] := by
  simp [history, cellDeeds]

end Scenario

end BenchSweep
