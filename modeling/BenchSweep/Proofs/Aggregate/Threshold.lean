import BenchSweep.Proofs.Aggregate.Refinement
import Mathlib.Data.List.Forall2

/-! # The threshold of successes

    How many figures a configuration needs has a part in one thing only, whether its
    aggregate is a median or has failed.  Two aggregators that differ in nothing else hold
    the same pending configurations at all times (`Alike`), and hand over the same
    aggregates at the same calls, except that some medians of the lower threshold have
    failed under the higher one (`raised_threshold_fails_medians`). -/

namespace BenchSweep

/-- The same aggregate under a threshold that is not lower: its median may have failed,
    and has if there are too few successes, so that there is none of no success. -/
structure Aggregate.Raised (least : Nat) (a b : Aggregate) : Prop where
  key_eq       : b.key = a.key
  successes_eq : b.successes = a.successes
  runs_eq      : b.runs = a.runs
  failures_eq  : b.failures = a.failures
  measurement  : b.measurement = a.measurement ∨ b.measurement = .failed
  failed_iff   : b.measurement = .failed ↔ b.successes < least
  unmeasured   : b.successes = 0 → b.measurement.median? = none

/-- **ONE AGGREGATE** under two thresholds. -/
theorem Aggregate.ofOutcomes_raised (key : Key) (runs : Nat) (os : List Outcome)
    {least least' : Nat} (hmin : 1 ≤ least) (hle : least ≤ least') :
    Raised least' (ofOutcomes key runs least os) (ofOutcomes key runs least' os) where
  key_eq := rfl
  successes_eq := rfl
  runs_eq := rfl
  failures_eq := rfl
  measurement := by
    rcases Nat.lt_or_ge (figuresOf os).length least' with hlt | hge
    · exact .inr (measurement_of_lt hlt)
    · obtain ⟨stats, hstats, hmedian⟩ :=
        @measurement_of_le key runs least os hmin (Nat.le_trans hle hge)
      obtain ⟨stats', hstats', hmedian'⟩ :=
        @measurement_of_le key runs least' os (Nat.le_trans hmin hle) hge
      obtain rfl : stats = stats' := Option.some.inj (hstats.symm.trans hstats')
      exact .inl (hmedian'.trans hmedian.symm)
  failed_iff := measurement_eq_failed_iff (Nat.le_trans hmin hle)
  unmeasured := by
    intro hnone
    have hlt : (figuresOf os).length < least' := by
      rw [show (figuresOf os).length = 0 from hnone]
      omega
    rw [measurement_of_lt hlt]
    rfl

namespace Pending

/-- Whatever is pending, it is reduced to the aggregate of some outcomes. -/
theorem exists_reduce_eq (p : Pending) :
    ∃ os, ∀ runs least, p.reduce runs least = Aggregate.ofOutcomes p.key runs least os := by
  obtain ⟨key, seen, samples, failures⟩ := p
  -- any order of figures among failures would do: the reduction reads each on its own
  refine ⟨samples.map .figure ++ failures.map .failed, fun runs least => ?_⟩
  have hfigures : figuresOf (samples.map .figure ++ failures.map .failed) = samples := by
    simp [figuresOf, Outcome.figure?, Function.comp_def]
  have hfailures : failuresOf (samples.map .figure ++ failures.map .failed) = failures := by
    simp [failuresOf, Outcome.failure?, Function.comp_def]
  rw [← reduce_ofOutcomes, ofOutcomes, hfigures, hfailures]
  rfl

theorem reduce_raised (p : Pending) (runs : Nat) {least least' : Nat} (hmin : 1 ≤ least)
    (hle : least ≤ least') :
    Aggregate.Raised least' (p.reduce runs least) (p.reduce runs least') := by
  obtain ⟨os, hos⟩ := p.exists_reduce_eq
  rw [hos, hos]
  exact Aggregate.ofOutcomes_raised p.key runs os hmin hle

end Pending

namespace Aggregator

/-- Answers that hand over the same aggregates, raised to a threshold, or tell the same
    number; or neither is one. -/
inductive Answer.Raised (least : Nat) : Answer → Answer → Prop where
  | pushed {a? b? : Option Aggregate} (h : Option.Rel (Aggregate.Raised least) a? b?) :
      Raised least (.pushed a?) (.pushed b?)
  | flushed {as bs : List Aggregate} (h : List.Forall₂ (Aggregate.Raised least) as bs) :
      Raised least (.flushed as) (.flushed bs)
  | discarded (count : Nat) : Raised least (.discarded count) (.discarded count)
  | pending (count : Nat) : Raised least (.pending count) (.pending count)
  | overflow : Raised least .overflow .overflow

/-- The same aggregator with another threshold. -/
def requiring (a : Aggregator) (least : Nat) : Aggregator :=
  { a with minSuccesses := least }

variable {a : Aggregator} {least : Nat}

/-- No call changes the threshold. -/
theorem minSuccesses_call (a : Aggregator) (c : Call) :
    (a.call c).2.minSuccesses = a.minSuccesses := by
  cases c with
  | push r =>
      by_cases hrep : r.repetition.toNat + 1 < 2 ^ 32
      · rw [call_push_of_lt hrep]
      · rw [call_push_of_not_lt hrep]
  | flush => rfl
  | discard => rfl
  | pending => rfl

/-- **ONE CALL** leaves the same configurations pending, whatever the threshold. -/
theorem call_requiring (a : Aggregator) (least : Nat) (c : Call) :
    ((a.requiring least).call c).2 = (a.call c).2.requiring least := by
  cases c with
  | push r =>
      by_cases hrep : r.repetition.toNat + 1 < 2 ^ 32
      · rw [call_push_of_lt hrep, call_push_of_lt hrep]
        rfl
      · rw [call_push_of_not_lt hrep, call_push_of_not_lt hrep]
  | flush => rfl
  | discard => rfl
  | pending => rfl

/-- **ONE ANSWER** under two thresholds. -/
theorem answer_raised (hmin : 1 ≤ a.minSuccesses) (hle : a.minSuccesses ≤ least) (c : Call) :
    Answer.Raised least (a.call c).1 ((a.requiring least).call c).1 := by
  have hreduce : ∀ p : Pending,
      Aggregate.Raised least (p.reduce a.runs a.minSuccesses) (p.reduce a.runs least) :=
    fun p => p.reduce_raised a.runs hmin hle
  cases c with
  | push r =>
      by_cases hrep : r.repetition.toNat + 1 < 2 ^ 32
      · rw [call_push_of_lt hrep, call_push_of_lt hrep]
        refine .pushed ?_
        show Option.Rel _ ((absorb a.runs r a.pending).1.map _)
          ((absorb a.runs r a.pending).1.map _)
        cases (absorb a.runs r a.pending).1 with
        | none => exact .none
        | some p => exact .some (hreduce p)
      · rw [call_push_of_not_lt hrep, call_push_of_not_lt hrep]
        exact .overflow
  | flush =>
      refine .flushed ?_
      show List.Forall₂ _ (a.pending.map _) (a.pending.map _)
      rw [List.forall₂_map_left_iff, List.forall₂_map_right_iff, List.forall₂_same]
      exact fun p _ => hreduce p
  | discard => exact .discarded _
  | pending => exact .pending _

/-- **ALL ANSWERS** under two thresholds, and what is pending after them. -/
theorem answers_raised (hmin : 1 ≤ a.minSuccesses) (hle : a.minSuccesses ≤ least)
    (calls : List Call) :
    List.Forall₂ (Answer.Raised least) (a.answers calls) ((a.requiring least).answers calls) ∧
      (a.requiring least).after calls = (a.after calls).requiring least := by
  induction calls generalizing a with
  | nil => exact ⟨.nil, rfl⟩
  | cons c cs ih =>
      have hsame := minSuccesses_call a c
      obtain ⟨hanswers, hafter⟩ :=
        @ih (a.call c).2 (hsame.symm ▸ hmin) (hsame.symm ▸ hle)
      rw [← call_requiring] at hanswers hafter
      exact ⟨.cons (answer_raised hmin hle c) hanswers, hafter⟩

/-- **THE THRESHOLD** fails medians and does nothing else.  Whatever calls are made of two
    new aggregators of which the second requires more successes, their answers hand over
    the same aggregates, with the same number of them pending at all times; a measurement
    of the second is that of the first or has failed, and has failed exactly if there are
    fewer successes than required, at least one of which always is. -/
theorem raised_threshold_fails_medians (runs : RunCount) {m m' : UInt32} (hle : m ≤ m')
    (calls : List Call) :
    List.Forall₂ (Answer.Raised (max m'.toNat 1)) ((Aggregator.new runs m).answers calls)
        ((Aggregator.new runs m').answers calls) ∧
      ((Aggregator.new runs m').after calls).pending.length
        = ((Aggregator.new runs m).after calls).pending.length := by
  have hle' : max m.toNat 1 ≤ max m'.toNat 1 := by
    have := UInt32.le_iff_toNat_le.mp hle
    omega
  obtain ⟨hanswers, hafter⟩ :=
    @answers_raised (Aggregator.new runs m) _ (Nat.le_max_right ..) hle' calls
  have hnew : (Aggregator.new runs m).requiring (max m'.toNat 1) = Aggregator.new runs m' := rfl
  rw [hnew] at hanswers hafter
  exact ⟨hanswers, congrArg (·.pending.length) hafter⟩

/-- One success of three is enough if none is required, which counts as one, and too few
    if two are. -/
theorem raised_threshold_one_of_three :
    let key : Key := ⟨⟨"set-ll-1k", by decide⟩, ⟨"mh-orc", by decide⟩, ⟨1, by decide⟩,
      ⟨100, by decide⟩⟩
    let result (repetition : UInt32) (outcome : Outcome) : TrialResult :=
      ⟨key, repetition, "", some 0, outcome⟩
    let calls : List Call := [.push (result 0 (.figure 100)), .push (result 1 (.failed (.wait ""))),
      .push (result 2 (.failed (.timeout 60)))]
    let published (least : UInt32) : List Aggregate :=
      ((Aggregator.new ⟨3, by decide⟩ least).answers calls).flatMap Answer.aggregates
    (0 : UInt32) ≤ 2 ∧
      (published 0).map (·.measurement.median?) = [some 100] ∧
      (published 2).map (·.measurement.median?) = [none] ∧
      List.Forall₂ (Answer.Raised 2) ((Aggregator.new ⟨3, by decide⟩ 0).answers calls)
        ((Aggregator.new ⟨3, by decide⟩ 2).answers calls) := by
  intro key result calls published
  have hle : (0 : UInt32) ≤ 2 := by decide
  refine ⟨hle, by decide +kernel, by decide +kernel,
    (raised_threshold_fails_medians ⟨3, by decide⟩ hle calls).1⟩

end Aggregator

end BenchSweep
