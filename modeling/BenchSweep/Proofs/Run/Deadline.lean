import BenchSweep.Proofs.Run.Uninterrupted
import BenchSweep.Proofs.Settings.Criterion
import BenchSweep.Rehearsal.Basic
import Mathlib

/-! # Deadlines that are exact

    A deadline is a product that is cut to the longest stretch of time if it does
    not fit, and a trial that is stopped there notes it in milliseconds, which are
    cut to a word.  Under an accepted configuration **NEITHER CUTS ANYTHING**
    (`deadline_exact`): a trial lasts a week at most and the multiplier is a
    32-bit word, which leaves room for the product even in milliseconds
    (`millis_fit`). -/

namespace BenchSweep

/-! ## Stretches of whole seconds -/

namespace Span

/-- A number of seconds is kept if it is a word. -/
theorem ofSecs_of_lt {n : Nat} (h : n < 2 ^ 64) : ofSecs n = ⟨n, 0⟩ := if_pos h

/-- The longest stretch does not end on a second. -/
theorem ne_longest (n : Nat) : Span.mk n 0 ≠ longest := by
  intro h
  exact nomatch congrArg nanos h

/-- The milliseconds of whole seconds are kept if they are a word. -/
theorem toNat_millis_of_lt {n : Nat} (h : 1000 * n < 2 ^ 64) :
    (Span.mk n 0).millis.toNat = 1000 * n := by
  show (UInt64.ofNat (n * 1000 + 0 / 1000000)).toNat = 1000 * n
  rw [Nat.zero_div, Nat.add_zero, Nat.mul_comm, UInt64.toNat_ofNat']
  exact Nat.mod_eq_of_lt h

end Span

/-- A trial takes a week at most. -/
theorem TrialDuration.toNat_le (d : TrialDuration) : d.secs.toNat ≤ 604800 :=
  UInt64.le_iff_toNat_le.mp d.le_week

/-- A week as often as a word of 32 bits can say is a word of 64 bits, even in
    milliseconds. -/
theorem millis_fit (duration : TrialDuration) (multiplier : UInt32) :
    1000 * (duration.secs.toNat * multiplier.toNat) < 2 ^ 64 := by
  have hmultiplier : multiplier.toNat ≤ 2 ^ 32 - 1 := Nat.le_sub_one_of_lt multiplier.toNat_lt
  calc 1000 * (duration.secs.toNat * multiplier.toNat)
      ≤ 1000 * (604800 * (2 ^ 32 - 1)) :=
        Nat.mul_le_mul_left _ (Nat.mul_le_mul duration.toNat_le hmultiplier)
    _ < 2 ^ 64 := by decide

/-- The deadline of a multiple is that multiple. -/
theorem deadline_eq {duration : TrialDuration} {multiplier : UInt32}
    (hmultiplier : 1 ≤ multiplier.toNat) :
    deadline duration multiplier = ⟨duration.secs.toNat * multiplier.toNat, 0⟩ := by
  rw [deadline, Nat.max_eq_left hmultiplier]
  exact Span.ofSecs_of_lt (Nat.lt_of_le_of_lt (Nat.le_mul_of_pos_left _ (by decide))
    (millis_fit duration multiplier))

/-! ## Trials that are stopped -/

/-- The result of a trial says that it was stopped after this many milliseconds. -/
def TrialResult.StoppedAfter (r : TrialResult) (ms : Nat) : Prop :=
  ∃ limitMs, r.outcome = .failed (.timeout limitMs) ∧ limitMs.toNat = ms

/-- A process that ends by itself has not been stopped. -/
theorem judge_ne_timeout (marker stdout : String) (status : ExitStatus) (limitMs : UInt64) :
    judge marker stdout status ≠ .failed (.timeout limitMs) := by
  rw [judge]
  cases status.isSuccess with
  | false => exact nofun
  | true =>
      cases Throughput.extract? stdout marker with
      | none => exact nofun
      | some ops => exact nofun

/-- A trial is noted as stopped just if it was, with the limit it was stopped at. -/
theorem Trial.result?_timeout_iff (t : Trial) (e : Ending) (limitMs : UInt64) :
    (∃ r, t.result? e = some r ∧ r.outcome = .failed (.timeout limitMs)) ↔
      ∃ output, e = .stopped output limitMs := by
  cases e with
  | exited output status =>
      refine iff_of_false ?_ nofun
      rintro ⟨r, ⟨⟩, h⟩
      exact judge_ne_timeout _ _ _ _ h
  | stopped output limit =>
      constructor
      · rintro ⟨r, ⟨⟩, ⟨⟩⟩
        exact ⟨output, rfl⟩
      · rintro ⟨_, ⟨⟩⟩
        exact ⟨_, rfl, rfl⟩
  | _ =>
      refine iff_of_false ?_ nofun
      rintro ⟨r, ⟨⟩, ⟨⟩⟩

namespace Rehearsal

/-- A process hangs until it is stopped: at the deadline it ends when it is asked to, or
    has to be killed. -/
def Part.Outlasts (part : Part) : Prop :=
  part.hang = .untilTerminated ∨ part.hang = .untilKilled

/-- In this state of the machine a launch times out: it can be made, its process hangs
    until it is stopped, and no interrupt comes before. -/
structure State.TimesOut (state : State) (l : Launch) : Prop where
  starts : ∃ place, state.prepare l = .ok place
  undisturbed : state.interrupt.fired = false
  hangs : (partAt state.script state.invocations.length).Outlasts

/-- A process is stopped if it hangs for that long, and its limit is the deadline. -/
theorem Part.ending_stopped_iff (part : Part) (deadline : Span) (interrupted : Bool)
    (limitMs : UInt64) :
    (∃ output, part.ending deadline interrupted = .stopped output limitMs) ↔
      interrupted = false ∧ part.Outlasts ∧ limitMs = deadline.millis := by
  rw [Part.ending, Part.Outlasts]
  cases interrupted with
  | true => exact iff_of_false nofun nofun
  | false =>
      cases part.hang with
      | never => exact iff_of_false nofun nofun
      | untilInterrupted => exact iff_of_false nofun nofun
      | untilTerminated =>
          constructor
          · rintro ⟨_, ⟨⟩⟩
            exact ⟨rfl, .inl rfl, rfl⟩
          · rintro ⟨-, -, rfl⟩
            exact ⟨_, rfl⟩
      | untilKilled =>
          constructor
          · rintro ⟨_, ⟨⟩⟩
            exact ⟨rfl, .inr rfl, rfl⟩
          · rintro ⟨-, -, rfl⟩
            exact ⟨_, rfl⟩

/-- A launch that times out is stopped at its deadline, and no other is stopped. -/
theorem State.launch_stopped_iff (state : State) (l : Launch) (limitMs : UInt64) :
    (∃ output, (state.launch l).1 = .stopped output limitMs) ↔
      state.TimesOut l ∧ limitMs = l.deadline.millis := by
  rw [State.launch]
  cases hprepare : state.prepare l with
  | error objection =>
      refine iff_of_false nofun ?_
      rintro ⟨⟨⟨place, hplace⟩, -, -⟩, -⟩
      exact nomatch hprepare.symm.trans hplace
  | ok place =>
      refine (Part.ending_stopped_iff _ _ _ _).trans ?_
      constructor
      · rintro ⟨hfired, hhang, hlimit⟩
        exact ⟨⟨⟨place, hprepare⟩, hfired, hhang⟩, hlimit⟩
      · rintro ⟨⟨-, hfired, hhang⟩, hlimit⟩
        exact ⟨hfired, hhang, hlimit⟩

/-- What comes of a trial is what its launch comes to. -/
theorem resultOf_eq_ok_iff (runner : Runner) (sink : Sink (StateM State))
    (captureDir? : Option String) (t : Trial) (state : State) (r : TrialResult) :
    ((machine.bench runner sink captureDir?).resultOf t state).1 = .ok r ↔
      t.result? (state.launch (runner.launch t)).1 = some r := by
  have hbench : (machine.bench runner sink captureDir?).perform t state
      = state.launch (runner.launch t) := rfl
  rw [Bench.resultOf, Scenario.bind_apply, hbench]
  cases t.result? (state.launch (runner.launch t)).1 with
  | none =>
      show Except.error RunFault.interrupted = Except.ok r ↔ none = some r
      simp only [reduceCtorEq]
  | some r' =>
      show Except.ok r' = Except.ok r ↔ some r' = some r
      rw [Except.ok.injEq, Option.some.injEq]

/-- A trial is noted as stopped just if its launch times out, after the milliseconds of
    the deadline. -/
theorem resultOf_stoppedAfter_iff (runner : Runner) (sink : Sink (StateM State))
    (captureDir? : Option String) (t : Trial) (state : State) (ms : Nat) :
    (∃ r, ((machine.bench runner sink captureDir?).resultOf t state).1 = .ok r ∧
        r.StoppedAfter ms) ↔
      state.TimesOut (runner.launch t) ∧ ms = runner.deadline.millis.toNat := by
  simp only [resultOf_eq_ok_iff]
  constructor
  · rintro ⟨r, hr, limitMs, hlimit, rfl⟩
    obtain ⟨htimesOut, rfl⟩ := (state.launch_stopped_iff _ _).mp
      ((t.result?_timeout_iff _ _).mp ⟨r, hr, hlimit⟩)
    exact ⟨htimesOut, rfl⟩
  · rintro ⟨htimesOut, rfl⟩
    obtain ⟨r, hr, hlimit⟩ := (t.result?_timeout_iff _ _).mpr
      ((state.launch_stopped_iff _ _).mpr ⟨htimesOut, rfl⟩)
    exact ⟨r, hr, _, hlimit, rfl⟩

end Rehearsal

/-! ## Accepted configurations -/

/-- The multiplier of an accepted configuration is not zero. -/
theorem Settings.multiplier_pos {raw : RawConfig} {overrides : Overrides} {config : Config}
    (hconfig : validate raw overrides = .ok config) :
    1 ≤ config.runner.timeoutMultiplier.toNat := by
  obtain ⟨-, hrunner, -⟩ := (validate_eq_ok_iff _ _ _).mp hconfig
  obtain ⟨hacceptable, hheld⟩ := (validateRunner_eq_ok_iff _ _ _).mp hrunner
  rw [hheld]
  exact hacceptable.multiplier_pos

/-- **THE DEADLINE** of an accepted configuration is the length of its trials times the
    multiplier, and not what longer ones are cut to.  Of its trials just those that time
    out are noted as stopped, and after that many seconds to the millisecond. -/
theorem deadline_exact {raw : RawConfig} {overrides : Overrides} {config : Config}
    (hconfig : Settings.validate raw overrides = .ok config) :
    let secs := config.sweep.duration.secs.toNat * config.runner.timeoutMultiplier.toNat
    let runner := config.trialRunner
    runner.deadline = ⟨secs, 0⟩ ∧ runner.deadline ≠ Span.longest ∧
    ∀ (sink : Sink (StateM Rehearsal.State)) (captureDir? : Option String) (t : Trial)
      (state : Rehearsal.State) (ms : Nat),
      (∃ r, ((Rehearsal.machine.bench runner sink captureDir?).resultOf t state).1 = .ok r ∧
          r.StoppedAfter ms) ↔
        state.TimesOut (runner.launch t) ∧ ms = 1000 * secs := by
  intro secs runner
  have hdeadline : runner.deadline = ⟨secs, 0⟩ := deadline_eq (Settings.multiplier_pos hconfig)
  refine ⟨hdeadline, ?_, ?_⟩
  · rw [hdeadline]
    exact Span.ne_longest secs
  · -- the bound on the milliseconds is the one that matters: it implies that on the seconds
    intro sink captureDir? t state ms
    have hmillis : runner.deadline.millis.toNat = 1000 * secs := by
      rw [hdeadline]
      exact Span.toNat_millis_of_lt (millis_fit _ _)
    rw [← hmillis]
    exact Rehearsal.resultOf_stoppedAfter_iff runner sink captureDir? t state ms

/-- One trial of a week, with the largest multiplier there is. -/
def weekRaw : RawConfig :=
  { sweep := { durationSecs := 604800, runs := 1, threads := [1], ratios := [0] }
    runner := { binDir := "b", timeoutMultiplier := 4294967295 }
    suites? := some [{ name := "s", variants := [{ name := "v" }] }] }

/-- The configuration that these settings make. -/
def weekConfig : Config := (Settings.validate weekRaw {}).toOption.get rfl

/-- A machine on which every process prints something and hangs. -/
def hangingState : Rehearsal.State :=
  { files := ⟨[(["b"], .directory), (["b", "s"], .program)]⟩
    script := [{ output := [79, 112, 115], hang := .untilTerminated }] }

/-- The trial of a week is stopped after more than eighty million years, and it says so
    to the millisecond. -/
theorem deadline_week :
    Settings.validate weekRaw {} = .ok weekConfig ∧
    weekConfig.trialRunner.deadline = ⟨2597596220016000, 0⟩ ∧
    ∃ t, weekConfig.trials = [t] ∧
      hangingState.TimesOut (weekConfig.trialRunner.launch t) ∧
      ∃ r, ((Rehearsal.machine.bench weekConfig.trialRunner
            (Rehearsal.machine.sink .text Rehearsal.machine.print) none).resultOf
              t hangingState).1 = .ok r ∧
          r.StoppedAfter 2597596220016000000 := by
  have hconfig : Settings.validate weekRaw {} = .ok weekConfig := rfl
  have hlaunches : weekConfig.trials.map weekConfig.trialRunner.launch
      = [{ executable := "b/s", workDir? := none, deadline := ⟨2597596220016000, 0⟩,
           arguments := ["v", "--duration=604800", "--runs=1", "--threads=1", "--ratios=0"] }] := by
    decide +kernel
  obtain ⟨t, htrials, hlaunch⟩ := List.map_eq_singleton_iff.mp hlaunches
  have hprepare : hangingState.prepare (weekConfig.trialRunner.launch t)
      = .ok (["b", "s"], []) := by
    rw [hlaunch]
    cbv
  have htimesOut : hangingState.TimesOut (weekConfig.trialRunner.launch t) :=
    ⟨⟨_, hprepare⟩, rfl, .inl rfl⟩
  obtain ⟨hdeadline, -, hstopped⟩ := deadline_exact hconfig
  exact ⟨hconfig, hdeadline, t, htrials, htimesOut,
    (hstopped _ _ _ _ _).mpr ⟨htimesOut, rfl⟩⟩

end BenchSweep
