import BenchSweep.Proofs.Run.Overflow
import Mathlib.Data.List.Induction

/-! # Runs whose sink refuses a record

    A sink that refuses a record ends the run at once.  Until then all has gone as with a
    sink that takes everything: the two runs go side by side (`Scenario.Follows`), from one
    step to the next and so from the first to the last, unless they part at a record that
    is refused (`Scenario.run_follows`).  That record is handed over right behind the last
    trial of its cell, so that the run has launched all trials of as many cells as
    records were handed over (`refused_record_stops_run`).  Nothing is asked of the
    configuration for that: if its trials cannot be counted, both runs break off at the
    same place. -/

namespace BenchSweep

/-- The trial that a deed launches. -/
def Deed.launched? : Deed → Option Trial
  | .trial t _ => some t
  | _          => none

/-- The trials that were launched. -/
def launchedIn (h : History) : List Trial := h.filterMap Deed.launched?

namespace Scenario

variable (sc : Scenario) (config : Config)

/-- The same scenario with a sink that takes everything. -/
def accepting : Scenario :=
  { sc with
    headerFault? := none
    recordFault? := fun _ _ => none }

/-- The sink takes the header and what it is handed after it, up to the `m`-th
    record, which it refuses.  What it would do with others is left open. -/
structure RefusesRecord (m : Nat) (fault : ReportFault) : Prop where
  header : sc.headerFault? = none
  earlier : ∀ h a, (publishedIn h).length + 1 < m → sc.recordFault? h a = none
  there : ∀ h a, (publishedIn h).length + 1 = m → sc.recordFault? h a = some fault

/-- A run returns the fault of the sink; it has launched just the trials of `m` cells
    and published all but the last of `m` records, the same as with a sink that takes
    everything; and the refused record, where the other run publishes it, is the last
    that it does. -/
structure StopsAt (m : Nat) (fault : ReportFault) : Prop where
  answer : (sc.run config).1 = .error (.fault (.report fault))
  launched : launchedIn (sc.run config).2
    = (launchedIn (sc.accepting.run config).2).take (m * config.runs)
  length_launched : (launchedIn (sc.run config).2).length = m * config.runs
  published : publishedIn (sc.run config).2
    = (publishedIn (sc.accepting.run config).2).take (m - 1)
  last : ∃ h a, (sc.run config).2 = h ++ [.record a false] ∧
    h ++ [.record a true] <+: (sc.accepting.run config).2

end Scenario

/-- A sink that refuses the header keeps a run from launching anything, and a sink that
    refuses any of the records stops it there.  Without an interrupt, and if the trials
    can be counted, these are the records of all cells. -/
structure Config.StopsWhenRefused (config : Config) : Prop where
  header : ∀ (sc : Scenario) fault, sc.headerFault? = some fault →
    sc.run config = (.error (.fault (.report fault)),
      [.header config.sweep (config.catalog.suites.map (·.name)) false])
  record : ∀ (sc : Scenario) m fault, sc.RefusesRecord m fault → 1 ≤ m →
    m ≤ (publishedIn (sc.accepting.run config).2).length → sc.StopsAt config m fault
  records : config.Fits → ∀ sc : Scenario, sc.Quiet →
    publishedIn (sc.accepting.run config).2 = config.cells.map (sc.aggregate config)

namespace Scenario

variable {sc : Scenario} {config : Config}

theorem accepting_accepts : sc.accepting.Accepts := ⟨rfl, fun _ _ => rfl⟩

/-! ## Reading a history -/

/-- The trials that a history launches are those of its position. -/
theorem launchedIn_history (done : List Cell) (begun : List Trial) :
    launchedIn (sc.history config done begun)
      = done.flatMap (·.trials config.sweep.runs) ++ begun := by
  rw [launchedIn, filterMap_history sc config (fun _ _ _ => rfl) (fun _ _ => rfl)]
  simp only [Deed.launched?, List.filterMap_some, Option.toList_none, List.append_nil]

/-- A record launches nothing. -/
theorem launchedIn_snoc_record (h : History) (a : Aggregate) (taken : Bool) :
    launchedIn (h ++ [.record a taken]) = launchedIn h :=
  List.filterMap_append.trans (List.append_nil _)

/-- A refused record is not published. -/
theorem publishedIn_snoc_refused (h : History) (a : Aggregate) :
    publishedIn (h ++ [.record a false]) = publishedIn h :=
  List.filterMap_append.trans (List.append_nil _)

theorem published?_eq_some_iff {d : Deed} {a : Aggregate} :
    d.published? = some a ↔ d = .record a true := by
  cases d with
  | record b taken =>
      cases taken with
      | true => simp [Deed.published?]
      | false => simp [Deed.published?]
  | _ => simp [Deed.published?]

/-- Every published record was handed over behind those before it. -/
theorem exists_published {h : History} {n : Nat} (hn : n < (publishedIn h).length) :
    ∃ h₁ a, h₁ ++ [.record a true] <+: h ∧ (publishedIn h₁).length = n := by
  induction h using List.reverseRecOn with
  | nil => exact nomatch hn
  | append_singleton h d ih =>
      have hbefore : n < (publishedIn h).length →
          ∃ h₁ a, h₁ ++ [.record a true] <+: h ++ [d] ∧ (publishedIn h₁).length = n := by
        intro hlt
        obtain ⟨h₁, a, hle, hlength⟩ := ih hlt
        exact ⟨h₁, a, hle.trans (List.prefix_append _ _), hlength⟩
      rw [publishedIn_append, publishedIn, publishedIn, List.filterMap_cons] at hn
      cases hd : d.published? with
      | none =>
          rw [hd, List.filterMap_nil, List.append_nil] at hn
          exact hbefore hn
      | some a =>
          rw [hd, List.filterMap_nil, List.length_append, List.length_singleton] at hn
          rcases Nat.lt_succ_iff_lt_or_eq.mp hn with hlt | rfl
          · exact hbefore hlt
          · rw [published?_eq_some_iff.mp hd]
            exact ⟨h, a, List.prefix_rfl, rfl⟩

/-! ## Side by side -/

/-- No record that has been taken since `h` is one that the sink refuses. -/
def TakesSince (sc : Scenario) (h h' : History) : Prop :=
  ∀ h₁ a, h <+: h₁ → h₁ ++ [.record a true] <+: h' → sc.recordFault? h₁ a = none

section TakesSince

variable {h h' h'' : History}

theorem TakesSince.trans (hfirst : sc.TakesSince h h') (hthen : sc.TakesSince h' h'')
    (hle : h' <+: h'') : sc.TakesSince h h'' := by
  intro h₁ a hstart hrecord
  rcases List.prefix_or_prefix_of_prefix hrecord hle with hbefore | hafter
  · exact hfirst h₁ a hstart hbefore
  · rcases List.prefix_concat_iff.mp hafter with rfl | hafter
    · exact hfirst h₁ a hstart List.prefix_rfl
    · exact hthen h₁ a hafter hrecord

/-- Without a record, nothing is taken. -/
theorem takesSince_append {tail : History} (hsilent : ∀ a, .record a true ∉ tail) :
    sc.TakesSince h (h ++ tail) := by
  rintro _ a ⟨between, rfl⟩ hrecord
  rw [List.append_assoc, List.prefix_append_right_inj] at hrecord
  exact absurd (hrecord.subset (List.mem_append_right _ List.mem_cons_self)) (hsilent a)

theorem takesSince_self : sc.TakesSince h h := by
  have hnone : sc.TakesSince h (h ++ []) := takesSince_append fun _ => List.not_mem_nil
  rwa [List.append_nil] at hnone

theorem takesSince_record {a : Aggregate} (hrecord : sc.recordFault? h a = none) :
    sc.TakesSince h (h ++ [.record a true]) := by
  rintro _ b ⟨between, rfl⟩ hle
  rw [List.append_assoc, List.prefix_append_right_inj] at hle
  have hlength := hle.length_le
  rw [List.length_append, List.length_singleton, List.length_singleton] at hlength
  obtain rfl : between = [] := List.eq_nil_of_length_eq_zero (by omega)
  obtain rfl : b = a := (Deed.record.inj (List.cons_prefix_cons.mp hle).1).1
  rw [List.append_nil]
  exact hrecord

end TakesSince

/-- **SIDE BY SIDE.**  From some history on, `x` does what `x'` does and the sink takes what
    it is handed; or it refuses a record, which ends `x`, while `x'` goes on behind it. -/
inductive Follows (sc : Scenario) {α : Type} (x x' : StateM History (Except Cut α)) (h : History) :
    Prop where
  | together (hle : h <+: (x h).2) (hsame : x h = x' h) (htakes : sc.TakesSince h (x h).2)
  | parted {h₁ : History} {a : Aggregate} {fault : ReportFault} (hle : h <+: h₁)
      (hrefused : sc.recordFault? h₁ a = some fault)
      (hx : x h = (.error (.fault (.report fault)), h₁ ++ [.record a false]))
      (hx' : h₁ ++ [.record a true] <+: (x' h).2) (htakes : sc.TakesSince h h₁)

section Follows

variable {α β : Type} {x x' : StateM History (Except Cut α)} {h : History}

/-- Neither of the two undoes anything. -/
theorem Follows.extends (hx : sc.Follows x x' h) : h <+: (x' h).2 := by
  cases hx with
  | together hle hsame htakes => exact hsame ▸ hle
  | parted hle hrefused hx hx' htakes =>
      exact (hle.trans (List.prefix_append _ _)).trans hx'

/-- Nothing is done on either side. -/
theorem Follows.pure (y : Except Cut α) : sc.Follows (Pure.pure y) (Pure.pure y) h :=
  .together List.prefix_rfl rfl takesSince_self

/-- What the sink has taken before may come before. -/
theorem Follows.after {y y' : StateM History (Except Cut α)} {h' : History} (hle : h <+: h')
    (htakes : sc.TakesSince h h') (hx : x h = y h') (hx' : x' h = y' h')
    (hy : sc.Follows y y' h') : sc.Follows x x' h := by
  cases hy with
  | together hle' hsame htakes' =>
      rw [← hx] at hle' hsame htakes'
      rw [← hx'] at hsame
      exact .together (hle.trans hle') hsame (htakes.trans htakes' hle')
  | parted hle' hrefused hyx hyx' htakes' =>
      rw [← hx] at hyx
      rw [← hx'] at hyx'
      exact .parted (hle.trans hle') hrefused hyx hyx' (htakes.trans htakes' hle')

/-- So may what hands it nothing. -/
theorem Follows.behind {y y' : StateM History (Except Cut α)} {tail : History}
    (hsilent : ∀ a, .record a true ∉ tail) (hx : x h = y (h ++ tail))
    (hx' : x' h = y' (h ++ tail)) (hy : sc.Follows y y' (h ++ tail)) : sc.Follows x x' h :=
  .after (List.prefix_append _ _) (takesSince_append hsilent) hx hx' hy

/-- One step after another. -/
theorem Follows.chain {f f' : α → StateM History (Except Cut β)} (hx : sc.Follows x x' h)
    (hf : ∀ a h', sc.Follows (f a) (f' a) h') :
    sc.Follows (Bench.chain x f) (Bench.chain x' f') h := by
  cases hx with
  | together hle hsame htakes =>
      rcases hresult : x h with ⟨y, h'⟩
      rw [hresult] at hle hsame htakes
      cases y with
      | error cut =>
          refine .after hle htakes ?_ ?_ (.pure (.error cut))
          · rw [Bench.chain, bind_apply, hresult]
          · rw [Bench.chain, bind_apply, ← hsame]
      | ok a =>
          refine .after hle htakes ?_ ?_ (hf a h')
          · rw [Bench.chain, bind_apply, hresult]
          · rw [Bench.chain, bind_apply, ← hsame]
  | @parted h₁ a fault hle hrefused hx hx' htakes =>
      have hchain : Bench.chain x f h
          = (.error (.fault (.report fault)), h₁ ++ [.record a false]) := by
        rw [Bench.chain, bind_apply, hx]
        rfl
      refine .parted hle hrefused hchain (hx'.trans ?_) htakes
      rw [Bench.chain, bind_apply]
      generalize x' h = result
      obtain ⟨y, h'⟩ := result
      cases y with
      | error cut => exact List.prefix_rfl
      | ok b => exact (hf b h').extends

end Follows

/-! ## Both runs, step by step -/

variable (sc)

theorem emit_follows (a : Aggregate) (s : Summary) (h : History) :
    sc.Follows (sc.bench.emit a s) (sc.accepting.bench.emit a s) h := by
  have haccepts : sc.accepting.recordFault? h a = none := rfl
  have hle : h <+: h ++ [.record a true] := List.prefix_append _ _
  cases hrecord : sc.recordFault? h a with
  | none =>
      have htakes := takesSince_record hrecord
      by_cases hfits : (s.countAggregate a).Fits
      · exact .after hle htakes (sc.emit_taken hrecord hfits)
          (sc.accepting.emit_taken haccepts hfits) (.pure (.ok (s.countAggregate a)))
      · exact .after hle htakes (sc.emit_overflows hrecord hfits)
          (sc.accepting.emit_overflows haccepts hfits) (.pure (.error .overflow))
  | some fault =>
      refine .parted List.prefix_rfl hrecord (sc.emit_refused hrecord s) ?_ takesSince_self
      by_cases hfits : (s.countAggregate a).Fits
      · simp only [sc.accepting.emit_taken haccepts hfits, List.prefix_rfl]
      · simp only [sc.accepting.emit_overflows haccepts hfits, List.prefix_rfl]

theorem absorb_follows (r : TrialResult) (p : Progress) (h : History) :
    sc.Follows (sc.bench.absorb r p) (sc.accepting.bench.absorb r p) h := by
  have hsilent : ∀ a, .record a true ∉ sc.captures r := fun a =>
    sc.record_not_mem_captures r a true
  by_cases hfits : (p.summary.countTrial r.outcome).Fits
  · rcases hpush : p.aggregator.push? r with _ | ⟨_ | a, ag⟩
    · exact .behind hsilent (sc.absorb_unpushed hfits hpush h)
        (sc.accepting.absorb_unpushed hfits hpush h) (.pure (.error .overflow))
    · exact .behind hsilent (sc.absorb_open hfits hpush h)
        (sc.accepting.absorb_open hfits hpush h) (.pure (.ok _))
    · refine .behind hsilent (absorb_eq_chain hfits hpush h) (absorb_eq_chain hfits hpush h) ?_
      exact (sc.emit_follows a _ _).chain fun s h' => .pure (.ok (Progress.mk s ag))
  · exact .after List.prefix_rfl takesSince_self (sc.absorb_overflows hfits h)
      (sc.accepting.absorb_overflows hfits h) (.pure (.error .overflow))

theorem step_follows (t : Trial) (p : Progress) (h : History) :
    sc.Follows (sc.bench.step t p) (sc.accepting.bench.step t p) h := by
  have hsilent : ∀ e a, Deed.record a true ∉ [Deed.trial t e] := by
    intro e a hmem
    cases List.mem_singleton.mp hmem
  cases hfired : sc.fired h with
  | true =>
      exact .after List.prefix_rfl takesSince_self (sc.step_fired hfired t p)
        (sc.accepting.step_fired hfired t p) (.pure (.error (.interrupted p.stop)))
  | false =>
      cases hstrikes : sc.strikes h t with
      | true =>
          exact .behind (hsilent .interrupted) (sc.step_struck hfired hstrikes p)
            (sc.accepting.step_struck hfired hstrikes p) (.pure (.error (.interrupted p.stop)))
      | false =>
          exact .behind (hsilent (sc.ending t)) (sc.step_finishes hfired hstrikes p)
            (sc.accepting.step_finishes hfired hstrikes p) (sc.absorb_follows (sc.result t) p _)

theorem walkList_follows (ts : List Trial) (p : Progress) (h : History) :
    sc.Follows (sc.bench.walkList ts p) (sc.accepting.bench.walkList ts p) h := by
  induction ts generalizing p h with
  | nil => exact .pure (.ok p)
  | cons t ts ih => exact (sc.step_follows t p h).chain ih

theorem emitAll_follows (as : List Aggregate) (s : Summary) (h : History) :
    sc.Follows (sc.bench.emitAll as s) (sc.accepting.bench.emitAll as s) h := by
  induction as generalizing s h with
  | nil => exact .pure (.ok s)
  | cons a as ih =>
      rw [Bench.emitAll_cons, Bench.emitAll_cons]
      exact (sc.emit_follows a s h).chain ih

theorem runSuite_follows (config : Config) (suite : Suite) (s : Summary) (h : History) :
    sc.Follows (sc.bench.runSuite config suite s) (sc.accepting.bench.runSuite config suite s) h := by
  cases hcount : (Sweep.mk suite config.sweep).length? with
  | none =>
      rw [Bench.runSuite_uncounted _ hcount, Bench.runSuite_uncounted _ hcount]
      exact .pure (.error .overflow)
  | some total =>
      rw [Bench.runSuite_counted _ hcount, Bench.runSuite_counted _ hcount]
      refine .after List.prefix_rfl takesSince_self rfl rfl (Follows.chain ?_ fun p h' =>
        sc.emitAll_follows p.aggregator.flush.1 p.summary h')
      rw [Bench.walk_eq_walkList, Bench.walk_eq_walkList]
      exact sc.walkList_follows _ _ h

theorem runSuites_follows (config : Config) (suites : List Suite) (s : Summary) (h : History) :
    sc.Follows (sc.bench.runSuites config suites s) (sc.accepting.bench.runSuites config suites s)
      h := by
  induction suites generalizing s h with
  | nil => exact .pure (.ok s)
  | cons suite suites ih =>
      rw [Bench.runSuites_cons, Bench.runSuites_cons]
      exact (sc.runSuite_follows config suite s h).chain ih

variable {sc}

/-- **WHOLE RUNS GO SIDE BY SIDE**: with a sink that takes the header, a run is that with
    a sink that takes everything, or it ends at a record that is refused and that the other
    run publishes.  Whatever was taken was not refused. -/
theorem run_follows (config : Config) (hheader : sc.headerFault? = none) :
    (sc.run config = sc.accepting.run config ∧ sc.TakesSince [] (sc.run config).2) ∨
    ∃ h a fault, sc.recordFault? h a = some fault ∧
      sc.run config = (.error (.fault (.report fault)), h ++ [.record a false]) ∧
      h ++ [.record a true] <+: (sc.accepting.run config).2 ∧ sc.TakesSince [] h := by
  have hstart : sc.TakesSince [] (sc.history config [] []) :=
    takesSince_append (h := []) fun a hmem => by cases List.mem_singleton.mp hmem
  have hsame : sc.accepting.history config [] [] = sc.history config [] [] := rfl
  have htaken : sc.accepting.headerFault? = none := rfl
  rw [run_taken hheader, run_taken htaken, hsame]
  have hfollows := sc.runSuites_follows config config.catalog.suites {} (sc.history config [] [])
  generalize sc.bench.runSuites config config.catalog.suites {} = x at hfollows ⊢
  generalize sc.accepting.bench.runSuites config config.catalog.suites {} = x' at hfollows ⊢
  cases hfollows with
  | together hle hsame htakes =>
      have htaken := hstart.trans htakes hle
      rw [← hsame]
      generalize x (sc.history config [] []) = result at htaken ⊢
      obtain ⟨y, h⟩ := result
      cases y with
      | ok s => exact .inl ⟨rfl, htaken⟩
      | error cut => exact .inl ⟨rfl, htaken⟩
  | @parted h a fault hle hrefused hx hx' htakes =>
      refine .inr ⟨h, a, fault, hrefused, ?_, ?_, hstart.trans htakes hle⟩
      · rw [hx]
        rfl
      · generalize x' (sc.history config [] []) = result at hx' ⊢
        obtain ⟨y, h'⟩ := result
        cases y with
        | ok s => exact hx'
        | error cut => exact hx'

/-! ## The refused record -/

/-- Where all records were taken, there are fewer than `m` if the `m`-th is refused. -/
theorem RefusesRecord.length_lt {m : Nat} {fault : ReportFault} {h : History}
    (hrefuses : sc.RefusesRecord m fault) (hm : 1 ≤ m) (htakes : sc.TakesSince [] h) :
    (publishedIn h).length < m := by
  refine Nat.lt_of_not_le fun hle => ?_
  obtain ⟨h₁, a, hrecord, hlength⟩ := exists_published (h := h) (n := m - 1) (by omega)
  have hrefused := hrefuses.there h₁ a (by omega)
  cases (htakes h₁ a List.nil_prefix hrecord).symm.trans hrefused

/-- Where a record is refused behind fewer than `m` others, it is the `m`-th. -/
theorem RefusesRecord.place {m : Nat} {fault fault' : ReportFault} {h : History} {a : Aggregate}
    (hrefuses : sc.RefusesRecord m fault) (hlt : (publishedIn h).length < m)
    (hrefused : sc.recordFault? h a = some fault') :
    (publishedIn h).length + 1 = m ∧ fault' = fault := by
  have hlength : (publishedIn h).length + 1 = m := by
    refine Nat.le_antisymm hlt (Nat.le_of_not_lt fun hearly => ?_)
    cases (hrefuses.earlier h a hearly).symm.trans hrefused
  exact ⟨hlength, Option.some.inj (hrefused.symm.trans (hrefuses.there h a hlength))⟩

/-- A run that ends at a refused record has done the trials of all cells whose records were
    handed over, the refused one included. -/
theorem position_of_refused {h : History} {a : Aggregate} {fault : ReportFault}
    (hheader : sc.headerFault? = none)
    (hrun : sc.run config = (.error (.fault (.report fault)), h ++ [.record a false])) :
    ∃ done, ∃ c : Cell, h = sc.history config done (c.trials config.sweep.runs) := by
  obtain ⟨-, ⟨-, hcomplete⟩ | ⟨cut, hcut, hanswer⟩⟩ := run_course config hheader
  · cases hcomplete.symm.trans hrun
  · rw [hrun] at hcut hanswer
    generalize hlast : h ++ [.record a false] = h' at hcut
    cases hcut with
    | interrupted hcells hn hlast' hfired => cases hanswer
    | @refused done rest c fault' hcells hrefused =>
        have hsplit : h ++ [.record a false] = sc.history config done (c.trials config.sweep.runs)
            ++ [.record (sc.aggregate config c) false] := hlast
        exact ⟨done, c, (List.append_inj' hsplit rfl).1⟩
    | overflow hcells hn hlast' hover => cases hanswer

/-- The first elements of a list are those of a list that begins it. -/
theorem eq_take_of_prefix {α : Type} {xs ys : List α} {n : Nat} (hle : xs <+: ys)
    (hlength : xs.length = n) : xs = ys.take n :=
  hlength ▸ List.prefix_iff_eq_take.mp hle

/-- A refused record stops a run right behind the cell it is of. -/
theorem stopsAt_of_refuses {m : Nat} {fault : ReportFault} (hrefuses : sc.RefusesRecord m fault)
    (hm : 1 ≤ m) (hle : m ≤ (publishedIn (sc.accepting.run config).2).length) :
    sc.StopsAt config m fault := by
  rcases run_follows config hrefuses.header with
    ⟨hsame, htakes⟩ | ⟨h, a, fault', hrefused, hrun, hothers, htakes⟩
  · rw [← hsame] at hle
    exact absurd (hrefuses.length_lt hm htakes) (Nat.not_lt_of_le hle)
  · obtain ⟨hlength, rfl⟩ := hrefuses.place (hrefuses.length_lt hm htakes) hrefused
    obtain ⟨done, c, rfl⟩ := position_of_refused hrefuses.header hrun
    have hbegins := (List.prefix_append _ _).trans hothers
    rw [publishedIn_history, List.length_map] at hlength
    have hlaunched : (launchedIn (sc.history config done (c.trials config.sweep.runs))).length
        = m * config.runs := by
      rw [launchedIn_history, List.length_append, config.length_flatMap_trials, Cell.length_trials,
        ← hlength, Nat.succ_mul]
      rfl
    refine ⟨congrArg Prod.fst hrun, ?_, ?_, ?_, ?_⟩
    · rw [hrun, launchedIn_snoc_record]
      exact eq_take_of_prefix (hbegins.filterMap _) hlaunched
    · rw [hrun, launchedIn_snoc_record, hlaunched]
    · rw [hrun, publishedIn_snoc_refused]
      have hpublished : (publishedIn (sc.history config done (c.trials config.sweep.runs))).length
          = m - 1 := by
        rw [publishedIn_history, List.length_map, ← hlength, Nat.add_sub_cancel]
      exact eq_take_of_prefix (hbegins.filterMap _) hpublished
    · exact ⟨_, a, congrArg Prod.snd hrun, hothers⟩

end Scenario

/-- **A REFUSED RECORD** stops the run of any configuration right behind the trials of as
    many cells as records were handed over; a refused header keeps it from starting. -/
theorem refused_record_stops_run (config : Config) : config.StopsWhenRefused where
  header sc fault hheader := Scenario.run_refused hheader
  record sc m fault hrefuses hm hle := Scenario.stopsAt_of_refuses hrefuses hm hle
  records hfit sc hquiet := by
    have hquiet' : sc.accepting.Quiet := fun h => hquiet h
    rw [Scenario.run_complete hfit hquiet' Scenario.accepting_accepts,
      Scenario.publishedIn_history]
    rfl

/-- A scenario in which nothing can be launched, and the sink refuses one record. -/
def Scenario.refusing (m : Nat) : Scenario :=
  { Scenario.unlaunched with
    recordFault? := fun h _ =>
      if (publishedIn h).length + 1 = m then some (.write "sink closed") else none }

theorem Scenario.refusing_refuses (m : Nat) :
    (Scenario.refusing m).RefusesRecord m (.write "sink closed") where
  header := rfl
  earlier _ _ hearlier := if_neg (Nat.ne_of_lt hearlier)
  there _ _ hthere := if_pos hthere

/-- Of the two skip lists the second one's record is refused: all four trials have been
    launched then, and the first one's record is published. -/
theorem refused_second_skiplist :
    (Scenario.refusing 2).Quiet ∧
    (Scenario.refusing 2).RefusesRecord 2 (.write "sink closed") ∧
    (publishedIn ((Scenario.refusing 2).accepting.run skiplistConfig).2).length = 2 ∧
    ((Scenario.refusing 2).run skiplistConfig).1
      = .error (.fault (.report (.write "sink closed"))) ∧
    (launchedIn ((Scenario.refusing 2).run skiplistConfig).2).length = 4 ∧
    publishedIn ((Scenario.refusing 2).run skiplistConfig).2
      = (publishedIn ((Scenario.refusing 2).accepting.run skiplistConfig).2).take 1 := by
  have hquiet : (Scenario.refusing 2).Quiet := fun _ => rfl
  have hrefuses := Scenario.refusing_refuses 2
  have hstops := refused_record_stops_run skiplistConfig
  have hlength : (publishedIn ((Scenario.refusing 2).accepting.run skiplistConfig).2).length = 2 := by
    rw [hstops.records skiplistConfig_fits _ hquiet, List.length_map]
    decide +kernel
  have hstop := hstops.record _ 2 _ hrefuses (by decide) (Nat.le_of_eq hlength.symm)
  exact ⟨hquiet, hrefuses, hlength, hstop.answer, hstop.length_launched, hstop.published⟩

end BenchSweep
