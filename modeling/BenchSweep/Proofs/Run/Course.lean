import BenchSweep.Proofs.Run.Position

/-! # The course of a run

    A run goes on from cell to cell until all are done, or until it is cut short:
    by the interrupt, before or during a trial, by a sink that refuses a record, or
    by a count that is no 64-bit word.  One trial takes a run from one position to the
    next or cuts it short (`Scenario.step_leads`); cells, suites and the whole run
    follow by induction.

    `Scenario.run_course` says where a run of any configuration stands in the end, in
    any scenario.  The counts cut a run short just if the trials of all suites together
    cannot be counted. -/

namespace BenchSweep

/-! ## Walking along a list of trials -/

namespace Bench

variable {m : Type → Type} [Monad m] (bench : Bench m)

/-- First `x` and then `f`, unless `x` is cut short. -/
def chain {α β : Type} (x : m (Except Cut α)) (f : α → m (Except Cut β)) :
    m (Except Cut β) := do
  match ← x with
  | .error cut => return .error cut
  | .ok a      => f a

theorem bind_eq_chain {α β : Type} {x : m (Except Cut α)} {f : α → m (Except Cut β)}
    {k : Except Cut α → m (Except Cut β)} (herror : ∀ cut, k (.error cut) = pure (.error cut))
    (hok : ∀ a, k (.ok a) = f a) : x >>= k = chain x f := by
  rw [chain]
  congr 1
  funext y
  cases y with
  | error cut => exact herror cut
  | ok a => exact hok a

/-- The trials of a list, one after the other. -/
def walkList : List Trial → Progress → m (Except Cut Progress)
  | [], p      => return .ok p
  | t :: ts, p => chain (bench.step t p) (walkList ts)

theorem walk_succ {sweep : Sweep} {position : Nat} {t : Trial}
    (ht : sweep.trialAt? position = some t) (count : Nat) (p : Progress) :
    bench.walk sweep (count + 1) position p
      = chain (bench.step t p) (bench.walk sweep count (position + 1)) := by
  rw [walk, ht]
  exact bind_eq_chain (fun _ => rfl) (fun _ => rfl)

theorem emitAll_cons (a : Aggregate) (as : List Aggregate) (s : Summary) :
    bench.emitAll (a :: as) s = chain (bench.emit a s) (bench.emitAll as) :=
  bind_eq_chain (fun _ => rfl) (fun _ => rfl)

theorem runSuite_counted {config : Config} {suite : Suite} {total : Nat}
    (hcount : (Sweep.mk suite config.sweep).length? = some total) (s : Summary) :
    bench.runSuite config suite s = (do
      let sweep : Sweep := ⟨suite, config.sweep⟩
      bench.log (.suiteStarted suite.name suite.variants.length total (sweep.secsOf total))
      chain (bench.walk sweep total 0 ⟨s, .new config.sweep.runs config.runner.minSuccesses⟩)
        fun p => bench.emitAll p.aggregator.flush.1 p.summary) := by
  rw [runSuite, hcount]
  show bench.log _ >>= _ = bench.log _ >>= _
  congr 1
  funext _
  exact bind_eq_chain (fun _ => rfl) (fun _ => rfl)

theorem runSuite_uncounted {config : Config} {suite : Suite}
    (hcount : (Sweep.mk suite config.sweep).length? = none) (s : Summary) :
    bench.runSuite config suite s = pure (.error .overflow) := by
  rw [runSuite, hcount]

theorem runSuites_cons (config : Config) (suite : Suite) (suites : List Suite) (s : Summary) :
    bench.runSuites config (suite :: suites) s
      = chain (bench.runSuite config suite s) (bench.runSuites config suites) :=
  bind_eq_chain (fun _ => rfl) (fun _ => rfl)

/-- A walk along a sweep goes along a stretch of its nested product. -/
theorem walk_eq_walkList (sweep : Sweep) (count position : Nat) (p : Progress) :
    bench.walk sweep count position p
      = bench.walkList ((sweep.trials.drop position).take count) p := by
  induction count generalizing position p with
  | zero => rfl
  | succ count ih =>
      rcases Nat.lt_or_ge position sweep.trials.length with hlt | hge
      · have hsome : sweep.trialAt? position = some sweep.trials[position] := by
          rw [Sweep.trialAt?_eq_getElem?, List.getElem?_eq_getElem hlt]
        rw [walk_succ bench hsome, List.drop_eq_getElem_cons hlt, List.take_succ_cons, walkList]
        congr 1
        funext p'
        exact ih (position + 1) p'
      · have hnone : sweep.trialAt? position = none := by
          rw [Sweep.trialAt?_eq_getElem?, List.getElem?_eq_none hge]
        rw [walk, hnone, List.drop_eq_nil_of_le hge, List.take_nil]
        rfl

end Bench

namespace Scenario

variable (sc : Scenario) (config : Config)

/-! ## Heeding the interrupt -/

/-- No trial was started once the interrupt had fired. -/
def Heeds (h : History) : Prop :=
  ∀ h₁ t e h₂, h = h₁ ++ .trial t e :: h₂ → sc.fired h₁ = false

/-- A deed of a history is its last one, or it was there before that. -/
theorem split_snoc {h h₁ h₂ : History} {d e : Deed} (heq : h ++ [d] = h₁ ++ e :: h₂) :
    (h₁ = h ∧ e = d) ∨ ∃ h₂', h = h₁ ++ e :: h₂' := by
  rcases List.eq_nil_or_concat h₂ with rfl | ⟨h₂', d', rfl⟩
  · obtain ⟨rfl, hlast⟩ := List.append_inj' heq rfl
    exact .inl ⟨rfl, (List.singleton_inj.mp hlast).symm⟩
  · have hsnoc : h ++ [d] = (h₁ ++ e :: h₂') ++ [d'] := by
      rw [heq]
      simp
    exact .inr ⟨h₂', (List.append_inj' hsnoc rfl).1⟩

variable {sc} in
/-- One more deed; if it is a trial, the interrupt has not fired before. -/
theorem Heeds.snoc {h : History} {d : Deed} (hheeds : sc.Heeds h)
    (hd : ∀ t e, d = .trial t e → sc.fired h = false) : sc.Heeds (h ++ [d]) := by
  intro h₁ t e h₂ heq
  rcases split_snoc heq with ⟨rfl, hlast⟩ | ⟨h₂', heq'⟩
  · exact hd t e hlast.symm
  · exact hheeds h₁ t e h₂' heq'

variable {sc} in
/-- A trial that is taken in, and the attempt to keep its output. -/
theorem Heeds.deeds {h : History} (hheeds : sc.Heeds h) (hfired : sc.fired h = false)
    (t : Trial) : sc.Heeds (h ++ sc.deeds t) := by
  have htrial : sc.Heeds (h ++ [.trial t (sc.ending t)]) := hheeds.snoc fun _ _ _ => hfired
  rw [Scenario.deeds, captures]
  cases sc.captureDir? with
  | none => exact htrial
  | some dir =>
      rw [List.append_cons]
      refine htrial.snoc ?_
      rintro t' e ⟨⟩

/-! ## Steps that may cut a run short -/

/-- Where `x` leads from some history: a result and a history that are `good`, or
    a cut and a history that are `bad`. -/
def Leads {α : Type} (x : StateM History (Except Cut α)) (h : History)
    (good : α → History → Prop) (bad : Cut → History → Prop) : Prop :=
  match x h with
  | (.ok a, h')      => good a h'
  | (.error cut, h') => bad cut h'

section Leads

variable {α β : Type} {h : History} {good : α → History → Prop} {bad : Cut → History → Prop}

theorem Leads.of_ok {x : StateM History (Except Cut α)} {a : α} {h' : History}
    (hx : x h = (.ok a, h')) (hgood : good a h') : Leads x h good bad := by
  rw [Leads, hx]
  exact hgood

theorem Leads.of_error {x : StateM History (Except Cut α)} {cut : Cut} {h' : History}
    (hx : x h = (.error cut, h')) (hbad : bad cut h') : Leads x h good bad := by
  rw [Leads, hx]
  exact hbad

theorem Leads.mono {x : StateM History (Except Cut α)} {good' : α → History → Prop}
    (hx : Leads x h good bad) (himp : ∀ a h', good a h' → good' a h') :
    Leads x h good' bad := by
  rw [Leads] at hx ⊢
  generalize x h = result at hx ⊢
  obtain ⟨y, h'⟩ := result
  cases y with
  | error cut => exact hx
  | ok a => exact himp a h' hx

/-- One step after another; a cut is passed on. -/
theorem leads_chain_iff {x : StateM History (Except Cut α)}
    {f : α → StateM History (Except Cut β)} {good : β → History → Prop} :
    Leads (Bench.chain x f) h good bad ↔
    Leads x h (fun a h' => Leads (f a) h' good bad) bad := by
  rw [Leads, Leads, Bench.chain, bind_apply]
  generalize x h = result
  obtain ⟨y, h'⟩ := result
  cases y with
  | error cut => exact Iff.rfl
  | ok a => exact Iff.rfl

/-- A walk along two lists, the one behind the other. -/
theorem leads_walkList_append_iff {bench : Bench (StateM History)} {ts us : List Trial}
    {p : Progress} {good : Progress → History → Prop} :
    Leads (bench.walkList (ts ++ us) p) h good bad ↔
    Leads (bench.walkList ts p) h (fun p' h' => Leads (bench.walkList us p') h' good bad)
      bad := by
  induction ts generalizing p h with
  | nil => exact Iff.rfl
  | cons t ts ih =>
      rw [List.cons_append, Bench.walkList, Bench.walkList, leads_chain_iff, leads_chain_iff]
      constructor
      · intro hstep
        exact hstep.mono fun p' h' hrest => ih.mp hrest
      · intro hstep
        exact hstep.mono fun p' h' hrest => ih.mpr hrest

/-- Taking in a result that completes an aggregate, which is handed over next. -/
theorem absorb_eq_chain {sc : Scenario} {r : TrialResult} {p : Progress} {a : Aggregate}
    {ag : Aggregator} (hfits : (p.summary.countTrial r.outcome).Fits)
    (hpush : p.aggregator.push? r = some (some a, ag)) (h : History) :
    sc.bench.absorb r p h
      = Bench.chain (sc.bench.emit a (p.summary.countTrial r.outcome))
          (fun s => pure (.ok ⟨s, ag⟩)) (h ++ sc.captures r) := by
  rw [sc.absorb_complete hfits hpush, Bench.chain, bind_apply]
  obtain ⟨x, h'⟩ := sc.bench.emit a (p.summary.countTrial r.outcome) (h ++ sc.captures r)
  cases x with
  | error cut => rfl
  | ok s => rfl

theorem leads_absorb_iff {sc : Scenario} {r : TrialResult} {p : Progress} {a : Aggregate}
    {ag : Aggregator} {good : Progress → History → Prop}
    (hfits : (p.summary.countTrial r.outcome).Fits)
    (hpush : p.aggregator.push? r = some (some a, ag)) :
    Leads (sc.bench.absorb r p) h good bad ↔
    Leads (sc.bench.emit a (p.summary.countTrial r.outcome)) (h ++ sc.captures r)
      (fun s h' => good ⟨s, ag⟩ h') bad := by
  rw [Leads, absorb_eq_chain hfits hpush]
  exact leads_chain_iff

end Leads

/-! ## Cells -/

/-- Where a run is cut short: before or during a trial, once the interrupt has fired;
    at a record that the sink refuses; or, if not all trials can be counted, before or
    behind a trial. -/
inductive CutShort : Cut → History → Prop where
  | interrupted {done rest : List Cell} {c : Cell} {n : Nat} {last : History}
      (hcells : config.cells = done ++ c :: rest) (hn : n < config.runs)
      (hlast : last = [] ∨ last = [.trial (c.trial n) .interrupted])
      (hfired : sc.fired (sc.history config done (c.first n) ++ last) = true) :
      CutShort (.interrupted (sc.progress config done (c.first n)).stop)
        (sc.history config done (c.first n) ++ last)
  | refused {done rest : List Cell} {c : Cell} {fault : ReportFault}
      (hcells : config.cells = done ++ c :: rest)
      (hrefused : sc.recordFault? (sc.history config done (c.trials config.sweep.runs))
        (sc.aggregate config c) = some fault) :
      CutShort (.fault (.report fault))
        (sc.history config done (c.trials config.sweep.runs)
          ++ [.record (sc.aggregate config c) false])
  | overflow {done rest : List Cell} {c : Cell} {n : Nat} {last : History}
      (hcells : config.cells = done ++ c :: rest) (hn : n < config.runs)
      (hlast : last = [] ∨ last = [.trial (c.trial n) (sc.ending (c.trial n))])
      (hover : ¬ config.Fits) :
      CutShort .overflow (sc.history config done (c.first n) ++ last)

/-- A run has been cut short and has heeded the interrupt. -/
def EndsEarly (cut : Cut) (h : History) : Prop :=
  sc.CutShort config cut h ∧ sc.Heeds h

/-- A run stands at a position, has counted what it has done, and has heeded the
    interrupt. -/
structure StandsAt (done : List Cell) (begun : List Trial) (p : Progress) (h : History) :
    Prop where
  progress : p = sc.progress config done begun
  history  : h = sc.history config done begun
  fits     : p.summary.Fits
  heeds    : sc.Heeds h

section Cells

variable {sc config} {done rest : List Cell} {c : Cell} {n : Nat} {p : Progress} {h : History}

/-- A trial cuts a run short, or it is counted and taken in. -/
theorem step_leads (hcells : config.cells = done ++ c :: rest) (hn : n < config.runs)
    (hstands : sc.StandsAt config done (c.first n) p h) {good : Progress → History → Prop}
    (habsorb : (sc.progress config done (c.first (n + 1))).summary.Fits →
      sc.Heeds (sc.history config done (c.first (n + 1))) →
      Leads (sc.bench.absorb (sc.result (c.trial n)) p)
        (h ++ [.trial (c.trial n) (sc.ending (c.trial n))]) good (sc.EndsEarly config)) :
    Leads (sc.bench.step (c.trial n) p) h good (sc.EndsEarly config) := by
  obtain ⟨rfl, rfl, -, hheeds⟩ := hstands
  cases hfired : sc.fired (sc.history config done (c.first n)) with
  | true =>
      refine Leads.of_error (sc.step_fired hfired _ _) ⟨?_, hheeds⟩
      have hcut : sc.CutShort config _ (sc.history config done (c.first n) ++ []) :=
        .interrupted hcells hn (.inl rfl) (by rwa [List.append_nil])
      rw [List.append_nil] at hcut
      exact hcut
  | false =>
      cases hstrikes : sc.strikes (sc.history config done (c.first n)) (c.trial n) with
      | true =>
          exact Leads.of_error (sc.step_struck hfired hstrikes _)
            ⟨.interrupted hcells hn (.inr rfl) (sc.struck _ _ hstrikes),
              hheeds.snoc fun _ _ _ => hfired⟩
      | false =>
          have hsummary : (sc.progress config done (c.first n)).summary.countTrial
              (sc.outcome (c.trial n)) = (sc.progress config done (c.first (n + 1))).summary :=
            sc.summary_open done
          rw [Leads, sc.step_finishes hfired hstrikes]
          by_cases hfits : (sc.progress config done (c.first (n + 1))).summary.Fits
          · have hdeeds := hheeds.deeds hfired (c.trial n)
            rw [history_open] at hdeeds
            exact habsorb hfits hdeeds
          · have hover : ¬ config.Fits := fun hfit =>
              hfits (sc.summary_fits done hfit hcells hn)
            rw [← hsummary] at hfits
            exact Leads.of_error (sc.absorb_overflows hfits _)
              ⟨.overflow hcells hn (.inr rfl) hover, hheeds.snoc fun _ _ _ => hfired⟩

/-- A trial that is not the last of its cell. -/
theorem step_leads_open (hcells : config.cells = done ++ c :: rest) (hn : n + 1 < config.runs)
    (hstands : sc.StandsAt config done (c.first n) p h) :
    Leads (sc.bench.step (c.trial n) p) h (sc.StandsAt config done (c.first (n + 1)))
      (sc.EndsEarly config) := by
  refine step_leads hcells (Nat.lt_of_succ_lt hn) hstands ?_
  intro hfits hheeds
  obtain ⟨rfl, rfl, -, -⟩ := hstands
  have hcounted := hfits
  rw [← summary_open] at hcounted
  refine Leads.of_ok (sc.absorb_open hcounted (sc.push_open hn) _) ?_
  rw [List.append_assoc]
  show sc.StandsAt config done _ _ (sc.history config done (c.first n) ++ sc.deeds (c.trial n))
  rw [history_open]
  exact ⟨congrArg (Progress.mk · _) (sc.summary_open done), rfl, hcounted, hheeds⟩

/-- The first trials of a cell, without the last one. -/
theorem first_leads (hcells : config.cells = done ++ c :: rest) (hn : n < config.runs)
    (hstands : sc.StandsAt config done [] p h) :
    Leads (sc.bench.walkList (c.first n) p) h (sc.StandsAt config done (c.first n))
      (sc.EndsEarly config) := by
  induction n with
  | zero => exact hstands
  | succ n ih =>
      have hstep : ∀ p h, sc.StandsAt config done (c.first n) p h →
          Leads (sc.bench.walkList [c.trial n] p) h
            (sc.StandsAt config done (c.first (n + 1))) (sc.EndsEarly config) := by
        intro p h hstands
        rw [Bench.walkList, leads_chain_iff]
        exact (step_leads_open hcells hn hstands).mono fun p' h' hstands' => hstands'
      rw [c.first_succ, leads_walkList_append_iff]
      rw [c.first_succ] at hstep
      exact (ih (Nat.lt_of_succ_lt hn)).mono hstep

/-- The last trial of a cell. -/
theorem step_leads_last (hcells : config.cells = done ++ c :: rest) (hn : n + 1 = config.runs)
    (hstands : sc.StandsAt config done (c.first n) p h) :
    Leads (sc.bench.step (c.trial n) p) h (sc.StandsAt config (done ++ [c]) [])
      (sc.EndsEarly config) := by
  refine step_leads hcells (Nat.lt_of_succ_le (Nat.le_of_eq hn)) hstands ?_
  intro hfits hheeds
  obtain ⟨rfl, rfl, -, -⟩ := hstands
  have hall : c.first (n + 1) = c.trials config.sweep.runs := congrArg c.first hn
  have hhistory : sc.history config done (c.first n)
        ++ [.trial (c.trial n) (sc.ending (c.trial n))] ++ sc.captures (sc.result (c.trial n))
      = sc.history config done (c.trials config.sweep.runs) := by
    rw [← hall, ← history_open, List.append_assoc]
    rfl
  have hcounted := hfits
  rw [← summary_open] at hcounted
  -- the trials that have been counted are those of the cells that are done then
  have hdone : (sc.progress config (done ++ [c]) []).summary.Fits := by
    rw [summary_fits_iff] at hfits ⊢
    rwa [List.append_nil, List.flatMap_append, List.flatMap_singleton, ← hall]
  rw [hall] at hheeds
  rw [leads_absorb_iff hcounted (sc.push_last hn), hhistory]
  cases hrecord : sc.recordFault? (sc.history config done (c.trials config.sweep.runs))
      (sc.aggregate config c) with
  | none =>
      rw [← sc.summary_last done hn] at hdone
      refine Leads.of_ok (sc.emit_taken hrecord hdone) ?_
      refine ⟨congrArg (Progress.mk · _) (sc.summary_last done hn), sc.history_last done, hdone, ?_⟩
      exact hheeds.snoc fun _ _ h => nomatch h
  | some fault =>
      exact Leads.of_error (sc.emit_refused hrecord _)
        ⟨.refused hcells hrecord, hheeds.snoc fun _ _ h => nomatch h⟩

/-- The trials of a cell. -/
theorem cell_leads (hcells : config.cells = done ++ c :: rest)
    (hstands : sc.StandsAt config done [] p h) :
    Leads (sc.bench.walkList (c.trials config.sweep.runs) p) h
      (sc.StandsAt config (done ++ [c]) []) (sc.EndsEarly config) := by
  obtain ⟨n, hn⟩ := Nat.exists_eq_add_one_of_ne_zero (Nat.ne_of_gt config.sweep.runs.toNat_pos)
  have hall : c.trials config.sweep.runs = c.first n ++ [c.trial n] :=
    (congrArg c.first hn).trans (c.first_succ n)
  have hlt : n < config.runs := Nat.lt_of_lt_of_eq (Nat.lt_succ_self n) hn.symm
  rw [hall, leads_walkList_append_iff]
  refine (first_leads hcells hlt hstands).mono ?_
  intro p' h' hstands'
  rw [Bench.walkList, leads_chain_iff]
  exact (step_leads_last hcells hn.symm hstands').mono fun p'' h'' hstands'' => hstands''

/-- The trials of some cells in a row. -/
theorem cells_leads (cs : List Cell) (hcells : config.cells = done ++ (cs ++ rest))
    (hstands : sc.StandsAt config done [] p h) :
    Leads (sc.bench.walkList (cs.flatMap (·.trials config.sweep.runs)) p) h
      (sc.StandsAt config (done ++ cs) []) (sc.EndsEarly config) := by
  induction cs generalizing done p h with
  | nil =>
      rw [List.append_nil]
      exact hstands
  | cons c cs ih =>
      rw [List.flatMap_cons, leads_walkList_append_iff]
      refine (cell_leads hcells hstands).mono ?_
      intro p' h' hstands'
      have hdone : done ++ c :: cs = done ++ [c] ++ cs := List.append_cons done c cs
      rw [hdone]
      exact ih (by rw [hcells, List.cons_append, List.append_cons]) hstands'

end Cells

/-! ## Suites -/

variable {sc config}

/-- A suite whose trials can be counted is run along them, and then what is open is
    handed over. -/
theorem leads_runSuite_iff {suite : Suite} {s : Summary} {h : History}
    {good : Summary → History → Prop} {bad : Cut → History → Prop}
    (hcount : (Sweep.mk suite config.sweep).trials.length < 2 ^ 64) :
    Leads (sc.bench.runSuite config suite s) h good bad ↔
    Leads (sc.bench.walkList (Sweep.mk suite config.sweep).trials ⟨s, sc.aggregator config []⟩) h
      (fun p h' => Leads (sc.bench.emitAll p.aggregator.flush.1 p.summary) h' good bad) bad := by
  rw [Bench.runSuite_counted _ (Sweep.length?_of_lt hcount)]
  show Leads (Bench.chain (sc.bench.walk _ _ 0 _) _) h _ _ ↔ _
  rw [leads_chain_iff, Bench.walk_eq_walkList, List.drop_zero, List.take_length]
  exact Iff.rfl

/-- Any other suite breaks a run off. -/
theorem runSuite_overflows {suite : Suite}
    (hcount : ¬ (Sweep.mk suite config.sweep).trials.length < 2 ^ 64) (s : Summary) (h : History) :
    sc.bench.runSuite config suite s h = (.error .overflow, h) := by
  rw [Bench.runSuite_uncounted _ ((Sweep.length?_eq_none_iff _).mpr (Nat.le_of_not_lt hcount))]
  rfl

/-- Some suites, one after the other.  Nothing is left open behind any of them. -/
theorem suites_leads {done rest : List Cell} {suites : List Suite} {s : Summary} {h : History}
    (hmem : suites ⊆ config.catalog.suites)
    (hcells : config.cells = done ++
      ((suites.flatMap fun suite => (Sweep.mk suite config.sweep).cells) ++ rest))
    (hstands : sc.StandsAt config done [] ⟨s, sc.aggregator config []⟩ h) :
    Leads (sc.bench.runSuites config suites s) h
      (fun s' h' => sc.StandsAt config
        (done ++ suites.flatMap fun suite => (Sweep.mk suite config.sweep).cells) []
        ⟨s', sc.aggregator config []⟩ h')
      (sc.EndsEarly config) := by
  induction suites generalizing done s h with
  | nil =>
      rw [List.flatMap_nil, List.append_nil]
      exact hstands
  | cons suite suites ih =>
      obtain ⟨hsuite, hmem⟩ := List.cons_subset.mp hmem
      rw [List.flatMap_cons, List.append_assoc] at hcells
      rw [Bench.runSuites_cons, leads_chain_iff]
      by_cases hcount : (Sweep.mk suite config.sweep).trials.length < 2 ^ 64
      · rw [leads_runSuite_iff hcount, Sweep.trials_eq_cells]
        refine (cells_leads _ hcells hstands).mono ?_
        rintro p h' ⟨rfl, rfl, hfits, hheeds⟩
        rw [List.flatMap_cons, ← List.append_assoc]
        refine ih hmem ?_ ⟨rfl, rfl, hfits, hheeds⟩
        rw [hcells, List.append_assoc]
      · have hover : ¬ config.Fits := fun hfit => hcount (hfit.sweep hsuite)
        have hne : (Sweep.mk suite config.sweep).cells ≠ [] := by
          intro hnil
          rw [Sweep.trials_eq_cells, hnil] at hcount
          exact hcount (Nat.two_pow_pos 64)
        obtain ⟨c, cs, hc⟩ := List.exists_cons_of_ne_nil hne
        rw [hc] at hcells
        obtain ⟨-, rfl, -, hheeds⟩ := hstands
        have hcut : sc.CutShort config .overflow (sc.history config done [] ++ []) :=
          .overflow hcells config.sweep.runs.toNat_pos (.inl rfl) hover
        rw [List.append_nil] at hcut
        exact Leads.of_error (runSuite_overflows hcount s _) ⟨hcut, hheeds⟩

/-! ## The whole run -/

/-- Warnings change nothing. -/
theorem warn_apply (configurations : Nat) (suites : List Suite) (h : History) :
    suites.forM (sc.bench.warnUnexpressed configurations) h = ((), h) := by
  induction suites generalizing h with
  | nil => rfl
  | cons suite suites ih =>
      have hwarn : sc.bench.warnUnexpressed configurations suite h = ((), h) := by
        rw [Bench.warnUnexpressed]
        split
        · rfl
        · rfl
      show (sc.bench.warnUnexpressed configurations suite >>= fun _ =>
        suites.forM (sc.bench.warnUnexpressed configurations)) h = _
      rw [bind_apply, hwarn]
      exact ih h

/-- A sink that refuses the header ends the run before it has begun. -/
theorem run_refused {fault : ReportFault} (hheader : sc.headerFault? = some fault) :
    sc.run config = (.error (.fault (.report fault)),
      [.header config.sweep (config.catalog.suites.map (·.name)) false]) := by
  rw [run, Bench.run, bind_apply, begin_refused sc hheader]
  rfl

/-- A sink that takes the header lets the suites be run. -/
theorem run_taken (hheader : sc.headerFault? = none) :
    sc.run config
      = match sc.bench.runSuites config config.catalog.suites {} (sc.history config [] []) with
        | (.ok s, h)      => (.ok s, h)
        | (.error cut, h) => (cut.answer, h) := by
  rw [run, Bench.run, bind_apply, begin_taken sc hheader]
  show ((config.catalog.suites.forM _ >>= _ : StateM History _) (sc.history config [] [])) = _
  rw [bind_apply, warn_apply, bind_apply]
  generalize sc.bench.runSuites config config.catalog.suites {} _ = result
  obtain ⟨x, h⟩ := result
  cases x with
  | ok s => rfl
  | error cut => rfl

theorem heeds_start : sc.Heeds (sc.history config [] []) := by
  have hnil : sc.Heeds [] := fun h₁ t e h₂ h => absurd h (by simp)
  exact hnil.snoc fun _ _ h => nomatch h

variable (sc config) in
/-- A run begins with nothing done. -/
theorem standsAt_start : sc.StandsAt config [] [] ⟨{}, sc.aggregator config []⟩
    (sc.history config [] []) where
  progress := rfl
  history  := rfl
  fits     := (sc.summary_fits_iff [] []).mpr (Nat.two_pow_pos 64)
  heeds    := heeds_start

/-- Where the suites lead a run whose header is taken. -/
theorem run_leads {good : Summary → History → Prop} {bad : Cut → History → Prop}
    (hheader : sc.headerFault? = none)
    (hsuites : Leads (sc.bench.runSuites config config.catalog.suites {})
      (sc.history config [] []) good bad) :
    (∃ s, (sc.run config).1 = .ok s ∧ good s (sc.run config).2) ∨
      ∃ cut, bad cut (sc.run config).2 ∧ (sc.run config).1 = cut.answer := by
  rw [run_taken hheader]
  rw [Leads] at hsuites
  generalize sc.bench.runSuites config config.catalog.suites {} _ = result at hsuites ⊢
  obtain ⟨x, h⟩ := result
  cases x with
  | ok s => exact .inl ⟨s, rfl, hsuites⟩
  | error cut => exact .inr ⟨cut, hsuites, rfl⟩

variable (config) in
/-- **A RUN** whose header is taken completes all cells, which can be counted then, or is
    cut short; either way no trial is started once the interrupt has fired. -/
theorem run_course (hheader : sc.headerFault? = none) :
    sc.Heeds (sc.run config).2 ∧
    ((config.Fits ∧ sc.run config = (.ok (sc.progress config config.cells []).summary,
        sc.history config config.cells [])) ∨
      ∃ cut, sc.CutShort config cut (sc.run config).2 ∧ (sc.run config).1 = cut.answer) := by
  have hall : (config.catalog.suites.flatMap fun suite => (Sweep.mk suite config.sweep).cells)
      = config.cells := by
    rw [Config.cells, Config.sweeps, List.flatMap_map]
  have hcells : config.cells = [] ++ ((config.catalog.suites.flatMap fun suite =>
      (Sweep.mk suite config.sweep).cells) ++ []) := by
    rw [hall, List.append_nil, List.nil_append]
  have hsuites := suites_leads (List.Subset.refl _) hcells (standsAt_start sc config)
  rw [hall, List.nil_append] at hsuites
  rcases run_leads hheader hsuites with ⟨s, hs, hprogress, hhistory, hfits, hheeds⟩ | ⟨cut, hearly, hcut⟩
  · refine ⟨hheeds, .inl ⟨?_, Prod.ext ?_ hhistory⟩⟩
    · rw [hprogress, summary_fits_iff, List.append_nil, ← config.trials_eq_cells] at hfits
      exact config.fits_iff.mpr hfits
    · rw [hs]
      exact congrArg (Except.ok ·.summary) hprogress
  · exact ⟨hearly.2, .inr ⟨cut, hearly.1, hcut⟩⟩

end Scenario

end BenchSweep
