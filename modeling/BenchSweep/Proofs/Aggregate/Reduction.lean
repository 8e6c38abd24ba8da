import BenchSweep.Aggregate.Basic

/-! # Reducing trials to an aggregate

    A pending configuration keeps a running tally; what it is reduced to in the
    end depends on its outcomes alone.  `Aggregate.ofOutcomes` reads an aggregate
    off the outcomes in order, and a pending configuration that has taken them in
    one by one is reduced to the same (`Pending.reduce_ofOutcomes`).  The last
    section says which of its pending configurations an aggregator adds a result
    to, and when that completes it. -/

namespace BenchSweep

/-- The figure of an outcome, if it has one. -/
def Outcome.figure? : Outcome → Option UInt64
  | .figure ops => some ops
  | .failed _   => none

/-- The failure of an outcome, if it is one. -/
def Outcome.failure? : Outcome → Option Failure
  | .figure _   => none
  | .failed why => some why

/-- The figures among some outcomes. -/
def figuresOf (os : List Outcome) : List UInt64 := os.filterMap Outcome.figure?

/-- The failures among some outcomes. -/
def failuresOf (os : List Outcome) : List Failure := os.filterMap Outcome.failure?

/-- Every outcome is a figure or a failure. -/
theorem length_figuresOf_add (os : List Outcome) :
    (figuresOf os).length + (failuresOf os).length = os.length := by
  induction os with
  | nil => rfl
  | cons o os ih =>
      cases o with
      | figure ops =>
          show (figuresOf os).length + 1 + (failuresOf os).length = os.length + 1
          omega
      | failed why =>
          show (figuresOf os).length + ((failuresOf os).length + 1) = os.length + 1
          omega

/-- **THE AGGREGATE** of a configuration whose trials had these outcomes. -/
def Aggregate.ofOutcomes (key : Key) (runs minSuccesses : Nat) (os : List Outcome) :
    Aggregate :=
  { key, runs
    successes := (figuresOf os).length
    failures := failuresOf os
    measurement :=
      match Statistics.ofSamples? (figuresOf os) with
      | some stats => if minSuccesses ≤ (figuresOf os).length then .median stats else .failed
      | none       => .failed }

/-! ## There are statistics of any figures -/

theorem length_ascending (samples : List UInt64) :
    (ascending samples).length = samples.length :=
  List.length_mergeSort samples

/-- The statistics of one figure or more. -/
theorem Statistics.exists_ofSamples? {samples : List UInt64} (h : samples ≠ []) :
    ∃ stats, Statistics.ofSamples? samples = some stats := by
  have hpos : 0 < (ascending samples).length := by
    rw [length_ascending]
    exact List.length_pos_iff.mpr h
  have hmiddle : ((ascending samples).length - 1) / 2 < (ascending samples).length := by omega
  have hne : ascending samples ≠ [] := List.length_pos_iff.mp hpos
  rw [Statistics.ofSamples?, lowerMedian?]
  simp only [List.getElem?_eq_getElem hmiddle, List.head?_eq_some_head hne,
    List.getLast?_eq_some_getLast hne]
  exact ⟨_, rfl⟩

/-- What statistics give are figures that they were made of. -/
theorem Statistics.mem_of_ofSamples? {samples : List UInt64} {stats : Statistics}
    (hstats : Statistics.ofSamples? samples = some stats) :
    ∀ ops ∈ [stats.median, stats.min, stats.max], ops ∈ samples := by
  have hmem : ∀ x, x ∈ ascending samples → x ∈ samples := fun x hx => List.mem_mergeSort.mp hx
  simp only [Statistics.ofSamples?, Option.bind_eq_bind, Option.bind_eq_some_iff] at hstats
  obtain ⟨median, hmedian, least, hleast, greatest, hgreatest, hsome⟩ := hstats
  obtain rfl := Option.some.inj hsome
  rw [List.forall_mem_cons, List.forall_mem_cons, List.forall_mem_singleton]
  exact ⟨hmem _ (List.mem_of_getElem? hmedian), hmem _ (List.mem_of_mem_head? hleast),
    hmem _ (List.mem_of_mem_getLast? hgreatest)⟩

namespace Aggregate

variable {key : Key} {runs minSuccesses : Nat} {os : List Outcome}

/-- With enough figures the measurement is their statistics. -/
theorem measurement_of_le (hmin : 1 ≤ minSuccesses) (h : minSuccesses ≤ (figuresOf os).length) :
    ∃ stats, Statistics.ofSamples? (figuresOf os) = some stats ∧
      (ofOutcomes key runs minSuccesses os).measurement = .median stats := by
  have hne : figuresOf os ≠ [] := List.length_pos_iff.mp (by omega)
  obtain ⟨stats, hstats⟩ := Statistics.exists_ofSamples? hne
  refine ⟨stats, hstats, ?_⟩
  rw [ofOutcomes]
  simp only [hstats]
  exact if_pos h

/-- With too few figures the configuration has failed. -/
theorem measurement_of_lt (h : (figuresOf os).length < minSuccesses) :
    (ofOutcomes key runs minSuccesses os).measurement = .failed := by
  rw [ofOutcomes]
  cases hstats : Statistics.ofSamples? (figuresOf os) with
  | none => rfl
  | some stats => exact if_neg (Nat.not_le_of_lt h)

/-- A published median is that of the statistics of the figures. -/
theorem ofSamples?_of_measurement_eq {stats : Statistics}
    (hmedian : (ofOutcomes key runs minSuccesses os).measurement = .median stats) :
    Statistics.ofSamples? (figuresOf os) = some stats := by
  rw [ofOutcomes] at hmedian
  cases hstats : Statistics.ofSamples? (figuresOf os) with
  | none => simp [hstats] at hmedian
  | some stats' =>
      simp only [hstats] at hmedian
      split at hmedian
      · rw [Measurement.median.inj hmedian]
      · simp at hmedian

/-- An aggregate has a median exactly if there are enough figures. -/
theorem measurement_eq_median_iff (hmin : 1 ≤ minSuccesses) :
    (∃ stats, Statistics.ofSamples? (figuresOf os) = some stats ∧
      (ofOutcomes key runs minSuccesses os).measurement = .median stats) ↔
      minSuccesses ≤ (figuresOf os).length := by
  constructor
  · rintro ⟨stats, -, hmedian⟩
    rcases Nat.lt_or_ge (figuresOf os).length minSuccesses with hlt | hle
    · rw [measurement_of_lt hlt] at hmedian
      exact nomatch hmedian
    · exact hle
  · exact measurement_of_le hmin

/-- An aggregate has failed exactly if there are too few figures. -/
theorem measurement_eq_failed_iff (hmin : 1 ≤ minSuccesses) :
    (ofOutcomes key runs minSuccesses os).measurement = .failed ↔
      (figuresOf os).length < minSuccesses := by
  constructor
  · intro hfailed
    rcases Nat.lt_or_ge (figuresOf os).length minSuccesses with hlt | hle
    · exact hlt
    · obtain ⟨stats, -, hmedian⟩ := measurement_of_le hmin hle
      rw [hfailed] at hmedian
      exact nomatch hmedian
  · exact measurement_of_lt

/-- Whether an aggregate has failed can be told without its statistics. -/
theorem isFailed_ofOutcomes (hmin : 1 ≤ minSuccesses) :
    (ofOutcomes key runs minSuccesses os).isFailed
      = decide ((figuresOf os).length < minSuccesses) := by
  rw [isFailed]
  rcases Nat.lt_or_ge (figuresOf os).length minSuccesses with hlt | hle
  · rw [measurement_of_lt hlt, decide_eq_true hlt]
  · obtain ⟨stats, -, hmedian⟩ := @measurement_of_le key runs minSuccesses os hmin hle
    rw [hmedian, decide_eq_false (Nat.not_lt_of_ge hle)]

end Aggregate

namespace Pending

/-- The pending configuration that has taken in some outcomes. -/
def ofOutcomes (key : Key) (os : List Outcome) : Pending :=
  { key, seen := os.length, samples := figuresOf os, failures := failuresOf os }

theorem ofOutcomes_nil (key : Key) : ofOutcomes key [] = fresh key := rfl

@[simp] theorem ofOutcomes_key (key : Key) (os : List Outcome) : (ofOutcomes key os).key = key :=
  rfl

@[simp] theorem ofOutcomes_seen (key : Key) (os : List Outcome) :
    (ofOutcomes key os).seen = os.length := rfl

/-- Taking in one more outcome. -/
@[simp] theorem add_ofOutcomes (key : Key) (os : List Outcome) (o : Outcome) :
    (ofOutcomes key os).add o = ofOutcomes key (os ++ [o]) := by
  cases o with
  | figure ops => simp [ofOutcomes, add, figuresOf, failuresOf, Outcome.figure?, Outcome.failure?]
  | failed why => simp [ofOutcomes, add, figuresOf, failuresOf, Outcome.figure?, Outcome.failure?]

/-- A tally is reduced to the aggregate of what it has taken in. -/
@[simp] theorem reduce_ofOutcomes (key : Key) (runs minSuccesses : Nat) (os : List Outcome) :
    (ofOutcomes key os).reduce runs minSuccesses
      = Aggregate.ofOutcomes key runs minSuccesses os := by
  show Aggregate.mk key _ _ runs _ = Aggregate.mk key _ _ runs _
  congr 1
  show (if minSuccesses ≤ (figuresOf os).length then _ else Measurement.failed) = _
  by_cases h : minSuccesses ≤ (figuresOf os).length
  · simp only [if_pos h]
    rfl
  · simp only [if_neg h]
    cases Statistics.ofSamples? (figuresOf os) with
    | none => rfl
    | some stats => rfl

end Pending

namespace Aggregator

/-! ## Looking for the configuration of a result -/

variable {runs : Nat} {r : TrialResult}

theorem completes_iff {repetition : UInt32} (p : Pending) :
    completes runs repetition p = true ↔
      runs ≤ repetition.toNat + 1 ∨ runs ≤ p.seen := by
  rw [completes, Bool.or_eq_true, decide_eq_true_iff, decide_eq_true_iff]

/-- A result whose repetition can be counted up is taken in. -/
theorem push?_of_lt {a : Aggregator} (hrep : r.repetition.toNat + 1 < 2 ^ 32) :
    a.push? r = some ((absorb a.runs r a.pending).1.map (·.reduce a.runs a.minSuccesses),
      { a with pending := (absorb a.runs r a.pending).2 }) := if_pos hrep

/-- A result of a key that is not in the list. -/
theorem absorb_of_forall_ne {ps : List Pending} (h : ∀ p ∈ ps, p.key ≠ r.key) :
    absorb runs r ps =
      let p := Pending.ofOutcomes r.key [r.outcome]
      if completes runs r.repetition p then (some p, ps) else (none, ps ++ [p]) := by
  induction ps with
  | nil =>
      show (let p := (Pending.fresh r.key).add r.outcome
        if completes runs r.repetition p then (some p, []) else (none, [p])) = _
      rw [← Pending.ofOutcomes_nil, Pending.add_ofOutcomes]
      rfl
  | cons q qs ih =>
      have hrest := ih fun p hp => h p (List.mem_cons_of_mem _ hp)
      rw [absorb, if_neg (h q List.mem_cons_self), hrest]
      by_cases hcomplete : completes runs r.repetition (Pending.ofOutcomes r.key [r.outcome])
      · simp only [if_pos hcomplete]
      · simp only [if_neg hcomplete]
        rfl

/-- A result of a key that is in the list. -/
theorem absorb_of_split {l l' : List Pending} {p : Pending} (hl : ∀ q ∈ l, q.key ≠ r.key)
    (hp : p.key = r.key) :
    absorb runs r (l ++ p :: l') =
      if completes runs r.repetition (p.add r.outcome) then (some (p.add r.outcome), l ++ l')
      else (none, l ++ p.add r.outcome :: l') := by
  induction l with
  | nil =>
      show (if p.key = r.key then _ else _) = _
      rw [if_pos hp]
      rfl
  | cons q qs ih =>
      have hrest := ih fun q' hq' => hl q' (List.mem_cons_of_mem _ hq')
      rw [List.cons_append, absorb, if_neg (hl q List.mem_cons_self), hrest]
      by_cases hcomplete : completes runs r.repetition (p.add r.outcome)
      · simp only [if_pos hcomplete]
        rfl
      · simp only [if_neg hcomplete]
        rfl

end Aggregator

end BenchSweep
