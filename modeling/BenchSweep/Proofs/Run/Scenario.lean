import BenchSweep.Proofs.Aggregate.Reduction
import BenchSweep.Run.Basic

/-! # Runs in a scenario

    A scenario settles how everything around a run will behave: how each trial
    ends, when the interrupt fires, what the sink refuses and which captures
    fail.  Except for the endings of trials it may go by all that has happened
    before.  A run in a scenario leaves a history (`Scenario.run`), and the
    lemmas here say what each step of a run adds to it. -/

namespace BenchSweep

/-- What a run does to its surroundings. -/
inductive Deed where
  | header (dims : Dimensions) (suites : List SuiteName) (taken : Bool)
  | trial (t : Trial) (ending : Ending)
  | capture (path text : String)
  | record (a : Aggregate) (taken : Bool)
deriving DecidableEq

/-- The deeds of a run, oldest first. -/
abbrev History := List Deed

/-- How the surroundings of a run behave.  Every trial has an ending of its own,
    unless the interrupt strikes while it runs; what has fired stays fired, and
    nothing strikes but what has fired. -/
structure Scenario where
  ending        : Trial → Ending
  finishes      : ∀ t, ending t ≠ .interrupted
  fired         : History → Bool
  stays         : ∀ h d, fired h = true → fired (h ++ [d]) = true
  strikes       : History → Trial → Bool
  struck        : ∀ h t, strikes h t = true → fired (h ++ [.trial t .interrupted]) = true
  headerFault?  : Option ReportFault
  recordFault?  : History → Aggregate → Option ReportFault
  captureDir?   : Option String
  captureFault? : History → String → Option String

namespace Scenario

variable (sc : Scenario)

/-- How a trial that is started after some history ends. -/
def endingAfter (h : History) (t : Trial) : Ending :=
  if sc.strikes h t then .interrupted else sc.ending t

/-- The services of a run: each notes what is done, and answers as the scenario
    has it. -/
def bench : Bench (StateM History) where
  isInterrupted := fun h => (sc.fired h, h)
  perform := fun t h => (sc.endingAfter h t, h ++ [.trial t (sc.endingAfter h t)])
  sink :=
    { begin := fun dims suites h =>
        match sc.headerFault? with
        | none       => (.ok (), h ++ [.header dims suites true])
        | some fault => (.error fault, h ++ [.header dims suites false])
      publish := fun a h =>
        match sc.recordFault? h a with
        | none       => (.ok (), h ++ [.record a true])
        | some fault => (.error fault, h ++ [.record a false]) }
  capture? := sc.captureDir?.map fun dir =>
    { dir
      write := fun path text h =>
        match sc.captureFault? h path with
        | none        => (.ok (), h ++ [.capture path text])
        | some reason => (.error reason, h ++ [.capture path text]) }
  log := fun _ => pure ()

/-- What a run of a configuration returns, and the history it leaves. -/
def run (config : Config) : Except Abort Summary × History :=
  sc.bench.run config []

/-- The sink takes whatever it is handed. -/
structure Accepts : Prop where
  header : sc.headerFault? = none
  record : ∀ h a, sc.recordFault? h a = none

/-- The interrupt never fires. -/
def Quiet : Prop := ∀ h, sc.fired h = false

/-- The same scenario without its interrupt. -/
def undisturbed : Scenario :=
  { sc with
    fired := fun _ => false
    stays := fun _ _ h => h
    strikes := fun _ _ => false
    struck := fun _ _ h => h }

theorem undisturbed_quiet : sc.undisturbed.Quiet := fun _ => rfl

theorem Accepts.undisturbed {sc : Scenario} (h : sc.Accepts) : sc.undisturbed.Accepts :=
  ⟨h.header, h.record⟩

end Scenario

/-! ## What a trial leaves behind -/

/-- Only an interrupted trial has no result. -/
theorem Trial.isSome_result? (t : Trial) {e : Ending} (h : e ≠ .interrupted) :
    (t.result? e).isSome = true := by
  cases e with
  | interrupted => exact absurd rfl h
  | _ => rfl

/-- A result is filed under the trial's key and repetition. -/
theorem Trial.result?_place {t : Trial} {e : Ending} {r : TrialResult}
    (h : t.result? e = some r) : r.key = t.key ∧ r.repetition = t.repetition := by
  cases e with
  | interrupted => exact nomatch h
  | _ =>
      obtain rfl := Option.some.inj h
      exact ⟨rfl, rfl⟩

namespace Scenario

variable (sc : Scenario)

/-- The result of a trial that comes to its end. -/
def result (t : Trial) : TrialResult :=
  (t.result? (sc.ending t)).get (t.isSome_result? (sc.finishes t))

theorem result?_ending (t : Trial) : t.result? (sc.ending t) = some (sc.result t) :=
  (Option.some_get _).symm

/-- The outcome of a trial that comes to its end. -/
def outcome (t : Trial) : Outcome := (sc.result t).outcome

@[simp] theorem result_key (t : Trial) : (sc.result t).key = t.key :=
  (Trial.result?_place (sc.result?_ending t)).1

@[simp] theorem result_repetition (t : Trial) : (sc.result t).repetition = t.repetition :=
  (Trial.result?_place (sc.result?_ending t)).2

/-- The attempt to keep a trial's output, if there is one. -/
def captures (r : TrialResult) : History :=
  match sc.captureDir? with
  | none     => []
  | some dir => [.capture (Capture.path dir r) r.stdout]

/-- The deeds of a trial that comes to its end. -/
def deeds (t : Trial) : History := .trial t (sc.ending t) :: sc.captures (sc.result t)

/-- No trial leaves a record by itself, and neither does what is kept of it. -/
theorem record_not_mem_captures (r : TrialResult) (a : Aggregate) (taken : Bool) :
    Deed.record a taken ∉ sc.captures r := by
  rw [captures]
  cases sc.captureDir? with
  | none => exact List.not_mem_nil
  | some dir => simp

theorem record_not_mem_deeds (t : Trial) (a : Aggregate) (taken : Bool) :
    Deed.record a taken ∉ sc.deeds t := by
  rw [deeds, List.mem_cons, not_or]
  exact ⟨nofun, sc.record_not_mem_captures _ a taken⟩

/-! ## The services -/

theorem isInterrupted_apply (h : History) : sc.bench.isInterrupted h = (sc.fired h, h) := rfl

theorem perform_apply (t : Trial) (h : History) :
    sc.bench.perform t h = (sc.endingAfter h t, h ++ [.trial t (sc.endingAfter h t)]) := rfl

theorem log_apply (e : Event) (h : History) : sc.bench.log e h = ((), h) := rfl

theorem begin_taken (hheader : sc.headerFault? = none) (dims : Dimensions)
    (suites : List SuiteName) (h : History) :
    sc.bench.sink.begin dims suites h = (.ok (), h ++ [.header dims suites true]) := by
  simp only [bench, hheader]

theorem begin_refused {fault : ReportFault} (hheader : sc.headerFault? = some fault)
    (dims : Dimensions) (suites : List SuiteName) (h : History) :
    sc.bench.sink.begin dims suites h = (.error fault, h ++ [.header dims suites false]) := by
  simp only [bench, hheader]

theorem publish_taken {a : Aggregate} {h : History} (hrecord : sc.recordFault? h a = none) :
    sc.bench.sink.publish a h = (.ok (), h ++ [.record a true]) := by
  simp only [bench, hrecord]

theorem publish_refused {a : Aggregate} {h : History} {fault : ReportFault}
    (hrecord : sc.recordFault? h a = some fault) :
    sc.bench.sink.publish a h = (.error fault, h ++ [.record a false]) := by
  simp only [bench, hrecord]

/-! ## The steps of a run -/

/-- One thing after another. -/
theorem bind_apply {σ α β : Type} (x : StateM σ α) (f : α → StateM σ β) (s : σ) :
    (x >>= f) s = f (x s).1 (x s).2 := rfl

/-- A capture that fails goes unnoticed. -/
theorem keep_apply (r : TrialResult) (h : History) :
    sc.bench.keep r h = ((), h ++ sc.captures r) := by
  rw [Bench.keep, captures, bench]
  cases sc.captureDir? with
  | none => exact congrArg (Prod.mk ()) (List.append_nil h).symm
  | some dir =>
      simp only [Option.map_some, Capture.keep, bind_apply]
      cases hfault : sc.captureFault? h (Capture.path dir r) with
      | none => rfl
      | some reason => rfl

/-- An aggregate that the sink takes is counted. -/
theorem emit_taken {a : Aggregate} {h : History} {s : Summary}
    (hrecord : sc.recordFault? h a = none) (hfits : (s.countAggregate a).Fits) :
    sc.bench.emit a s h = (.ok (s.countAggregate a), h ++ [.record a true]) := by
  simp only [Bench.emit, bind_apply, publish_taken sc hrecord, Summary.checked?, if_pos hfits]
  cases a.isFailed with
  | true => rfl
  | false => rfl

/-- If it cannot be counted, that breaks the run off. -/
theorem emit_overflows {a : Aggregate} {h : History} {s : Summary}
    (hrecord : sc.recordFault? h a = none) (hover : ¬ (s.countAggregate a).Fits) :
    sc.bench.emit a s h = (.error .overflow, h ++ [.record a true]) := by
  simp only [Bench.emit, bind_apply, publish_taken sc hrecord, Summary.checked?, if_neg hover]
  rfl

/-- An aggregate that the sink refuses ends the run. -/
theorem emit_refused {a : Aggregate} {h : History} {fault : ReportFault}
    (hrecord : sc.recordFault? h a = some fault) (s : Summary) :
    sc.bench.emit a s h = (.error (.fault (.report fault)), h ++ [.record a false]) := by
  simp only [Bench.emit, bind_apply, publish_refused sc hrecord]
  rfl

section Absorb

variable {r : TrialResult} {p : Progress} {ag : Aggregator}

/-- A trial that cannot be counted breaks the run off. -/
theorem absorb_overflows (hover : ¬ (p.summary.countTrial r.outcome).Fits) (h : History) :
    sc.bench.absorb r p h = (.error .overflow, h) := by
  simp only [Bench.absorb, Summary.checked?, if_neg hover]
  rfl

/-- So does a repetition that cannot be counted up. -/
theorem absorb_unpushed (hfits : (p.summary.countTrial r.outcome).Fits)
    (hpush : p.aggregator.push? r = none) (h : History) :
    sc.bench.absorb r p h = (.error .overflow, h ++ sc.captures r) := by
  simp only [Bench.absorb, Summary.checked?, if_pos hfits, bind_apply, log_apply, keep_apply, hpush]
  rfl

/-- Taking in a result that completes nothing. -/
theorem absorb_open (hfits : (p.summary.countTrial r.outcome).Fits)
    (hpush : p.aggregator.push? r = some (none, ag)) (h : History) :
    sc.bench.absorb r p h
      = (.ok ⟨p.summary.countTrial r.outcome, ag⟩, h ++ sc.captures r) := by
  simp only [Bench.absorb, Summary.checked?, if_pos hfits, bind_apply, log_apply, keep_apply, hpush]
  rfl

/-- Taking in a result that completes an aggregate. -/
theorem absorb_complete {a : Aggregate} (hfits : (p.summary.countTrial r.outcome).Fits)
    (hpush : p.aggregator.push? r = some (some a, ag)) (h : History) :
    sc.bench.absorb r p h
      = match sc.bench.emit a (p.summary.countTrial r.outcome) (h ++ sc.captures r) with
        | (.ok s, h')      => (.ok ⟨s, ag⟩, h')
        | (.error cut, h') => (.error cut, h') := by
  simp only [Bench.absorb, Summary.checked?, if_pos hfits, bind_apply, log_apply, keep_apply, hpush]
  obtain ⟨x, h'⟩ := sc.bench.emit a (p.summary.countTrial r.outcome) (h ++ sc.captures r)
  cases x with
  | ok s => rfl
  | error cut => rfl

end Absorb

/-- Once the interrupt has fired, no trial is started. -/
theorem step_fired {h : History} (hfired : sc.fired h = true) (t : Trial) (p : Progress) :
    sc.bench.step t p h = (.error (.interrupted p.stop), h) := by
  simp only [Bench.step, bind_apply, isInterrupted_apply, hfired]
  rfl

/-- Otherwise a trial is launched, and its result taken in if it has one. -/
theorem step_unfired {h : History} (hfired : sc.fired h = false) (t : Trial) (p : Progress) :
    sc.bench.step t p h
      = match sc.bench.resultOf t h with
        | (.ok r, h')    => sc.bench.absorb r p h'
        | (.error _, h') => (.error (.interrupted p.stop), h') := by
  simp only [Bench.step, bind_apply, isInterrupted_apply, hfired]
  rw [if_neg Bool.false_ne_true, bind_apply]
  obtain ⟨x, h'⟩ := sc.bench.resultOf t h
  cases x with
  | ok r => rfl
  | error why => rfl

/-- A trial that the interrupt strikes is the last. -/
theorem step_struck {h : History} {t : Trial} (hfired : sc.fired h = false)
    (hstrikes : sc.strikes h t = true) (p : Progress) :
    sc.bench.step t p h = (.error (.interrupted p.stop), h ++ [.trial t .interrupted]) := by
  have hending : sc.endingAfter h t = .interrupted := if_pos hstrikes
  have hresult : sc.bench.resultOf t h
      = (.error .interrupted, h ++ [.trial t .interrupted]) := by
    simp only [Bench.resultOf, bind_apply, perform_apply, hending]
    rfl
  rw [step_unfired sc hfired, hresult]

/-- Any other trial is taken in. -/
theorem step_finishes {h : History} {t : Trial} (hfired : sc.fired h = false)
    (hstrikes : sc.strikes h t = false) (p : Progress) :
    sc.bench.step t p h
      = sc.bench.absorb (sc.result t) p (h ++ [.trial t (sc.ending t)]) := by
  have hending : sc.endingAfter h t = sc.ending t := if_neg (by simp [hstrikes])
  have hresult : sc.bench.resultOf t h
      = (.ok (sc.result t), h ++ [.trial t (sc.ending t)]) := by
    simp only [Bench.resultOf, bind_apply, perform_apply, hending, result?_ending]
    rfl
  rw [step_unfired sc hfired, hresult]

end Scenario

end BenchSweep
