import BenchSweep.Proofs.Run.Uninterrupted

/-! # What is published was measured

    The figures of a configuration are those that its trials have printed: of a
    process that ends by itself with success, what is found in its output with the
    marker of the suite (`measuredIn`).  A run publishes no others
    (`records_are_measured`): in every history that a run can leave, the figures of a
    record are just those that were measured for its key, no more and no less.

    Wherever a run ends, its history is that of a position.  The records in it are those
    of the cells that are done, and since no two cells have the same key, what is
    measured for the key of such a cell are the figures of its own trials
    (`Scenario.measuredIn_done`). -/

namespace BenchSweep

/-! ## Figures -/

/-- The figure that a deed measures for a configuration: it takes a trial of just this
    configuration whose process has ended by itself, with success, and in whose output
    a figure is found with the marker of the suite. -/
def Deed.measured? (suite : Suite) (key : Key) : Deed → Option UInt64
  | .trial t (.exited output status) =>
      if t.key = key ∧ status.isSuccess then
        Throughput.extract? (String.ofList (Text.decodeUtf8 output)) suite.marker
      else none
  | _ => none

/-- The figures that a history measures for a configuration, oldest first. -/
def measuredIn (suite : Suite) (key : Key) (h : History) : List UInt64 :=
  h.filterMap (Deed.measured? suite key)

/-- Where a figure comes from. -/
theorem mem_measuredIn_iff {suite : Suite} {key : Key} {h : History} {ops : UInt64} :
    ops ∈ measuredIn suite key h ↔ ∃ t output status, .trial t (.exited output status) ∈ h
      ∧ t.key = key ∧ status.isSuccess = true
      ∧ Throughput.extract? (String.ofList (Text.decodeUtf8 output)) suite.marker = some ops := by
  rw [measuredIn, List.mem_filterMap]
  constructor
  · rintro ⟨d, hd, hops⟩
    unfold Deed.measured? at hops
    split at hops
    · next t output status =>
        split at hops
        · next hmeasured => exact ⟨t, output, status, hd, hmeasured.1, hmeasured.2, hops⟩
        · exact nomatch hops
    · exact nomatch hops
  · rintro ⟨t, output, status, hd, hkey, hsuccess, hops⟩
    exact ⟨_, hd, (if_pos ⟨hkey, hsuccess⟩).trans hops⟩

theorem measuredIn_append (suite : Suite) (key : Key) (h h' : History) :
    measuredIn suite key (h ++ h') = measuredIn suite key h ++ measuredIn suite key h' :=
  List.filterMap_append

/-- A deed that measures nothing changes nothing. -/
theorem measuredIn_snoc_of_none {suite : Suite} {key : Key} {d : Deed}
    (hd : d.measured? suite key = none) (h : History) :
    measuredIn suite key (h ++ [d]) = measuredIn suite key h := by
  rw [measuredIn_append, measuredIn, measuredIn, List.filterMap_cons_none hd, List.filterMap_nil,
    List.append_nil]

/-- The trials of other configurations measure nothing. -/
theorem Deed.measured?_trial_of_ne {suite : Suite} {key : Key} {t : Trial} (hkey : t.key ≠ key)
    (e : Ending) : (Deed.trial t e).measured? suite key = none := by
  cases e with
  | exited output status => exact if_neg fun h => hkey h.1
  | _ => rfl

/-- **THE OUTCOME** of a trial is a figure just if one is measured. -/
theorem Trial.figure?_outcome {t : Trial} {e : Ending} {r : TrialResult}
    (hresult : t.result? e = some r) :
    r.outcome.figure? = (Deed.trial t e).measured? t.suite t.key := by
  cases e with
  | interrupted => exact nomatch hresult
  | exited output status =>
      obtain rfl := Option.some.inj hresult
      show (judge t.suite.marker _ status).figure? = if t.key = t.key ∧ _ then _ else none
      rw [judge]
      cases hsuccess : status.isSuccess with
      | false => exact (if_neg fun h => nomatch h.2).symm
      | true =>
          simp only [and_self, if_true]
          cases Throughput.extract? (String.ofList (Text.decodeUtf8 output)) t.suite.marker with
          | none => rfl
          | some ops => rfl
  | _ =>
      obtain rfl := Option.some.inj hresult
      rfl

namespace Scenario

variable {sc : Scenario}

/-- What is kept of an output measures nothing. -/
theorem measuredIn_captures (suite : Suite) (key : Key) (r : TrialResult) :
    measuredIn suite key (sc.captures r) = [] := by
  rw [captures]
  cases sc.captureDir? with
  | none => rfl
  | some dir => rfl

theorem measuredIn_deeds_of_ne {suite : Suite} {key : Key} {t : Trial} (hkey : t.key ≠ key) :
    measuredIn suite key (sc.deeds t) = [] := by
  rw [deeds, ← List.singleton_append, measuredIn_append, measuredIn_captures, List.append_nil]
  exact List.filterMap_cons_none (Deed.measured?_trial_of_ne hkey _)

/-- A trial measures the figure of its outcome, if it has one. -/
theorem measuredIn_deeds (t : Trial) :
    measuredIn t.suite t.key (sc.deeds t) = figuresOf (sc.outcomes [t]) := by
  have hfigure : (Deed.trial t (sc.ending t)).measured? t.suite t.key = (sc.outcome t).figure? :=
    (Trial.figure?_outcome (sc.result?_ending t)).symm
  rw [deeds, ← List.singleton_append, measuredIn_append, measuredIn_captures, List.append_nil]
  show List.filterMap _ [_] = List.filterMap _ [_]
  rw [List.filterMap_cons, List.filterMap_cons, hfigure, List.filterMap_nil, List.filterMap_nil]

/-! ## Figures along the cells -/

variable {config : Config} {c : Cell} {n : Nat}

/-- Trials of other configurations measure nothing. -/
theorem measuredIn_flatMap_deeds_of_ne {suite : Suite} {key : Key} {ts : List Trial}
    (hkeys : ∀ t ∈ ts, t.key ≠ key) : measuredIn suite key (ts.flatMap sc.deeds) = [] := by
  rw [measuredIn, List.filterMap_flatMap]
  refine List.flatMap_eq_nil_iff.mpr ?_
  exact fun t ht => measuredIn_deeds_of_ne (hkeys t ht)

/-- The trials of a cell measure the figures of their outcomes. -/
theorem measuredIn_flatMap_deeds {ts : List Trial} {suite : Suite} {key : Key}
    (hsame : ∀ t ∈ ts, t.suite = suite ∧ t.key = key) :
    measuredIn suite key (ts.flatMap sc.deeds) = figuresOf (sc.outcomes ts) := by
  induction ts with
  | nil => rfl
  | cons t ts ih =>
      obtain ⟨⟨rfl, rfl⟩, hts⟩ := List.forall_mem_cons.mp hsame
      rw [List.flatMap_cons, measuredIn_append, measuredIn_deeds, ih hts]
      exact List.filterMap_append.symm

theorem mem_trials {t : Trial} (ht : t ∈ c.trials config.sweep.runs) :
    t.suite = c.suite ∧ t.key = c.key := by
  obtain ⟨k, -, rfl⟩ := List.mem_map.mp ht
  exact ⟨rfl, rfl⟩

/-- A record measures nothing. -/
theorem measuredIn_cellDeeds (suite : Suite) (key : Key) (c : Cell) :
    measuredIn suite key (sc.cellDeeds config c)
      = measuredIn suite key ((c.trials config.sweep.runs).flatMap sc.deeds) :=
  measuredIn_snoc_of_none rfl _

/-- Other cells measure nothing. -/
theorem measuredIn_cells_of_ne {suite : Suite} {key : Key} {cs : List Cell}
    (hkeys : ∀ c ∈ cs, c.key ≠ key) :
    measuredIn suite key (cs.flatMap (sc.cellDeeds config)) = [] := by
  rw [measuredIn, List.filterMap_flatMap]
  refine List.flatMap_eq_nil_iff.mpr fun c hc => ?_
  refine (measuredIn_cellDeeds suite key c).trans (measuredIn_flatMap_deeds_of_ne ?_)
  intro t ht
  rw [(mem_trials ht).2]
  exact hkeys c hc

/-- What is measured up to a position of the next cell, and in the deeds behind it. -/
theorem measuredIn_position (suite : Suite) (key : Key) (done : List Cell) (begun : List Trial)
    (last : History) :
    measuredIn suite key (sc.history config done begun ++ last)
      = measuredIn suite key (done.flatMap (sc.cellDeeds config))
        ++ measuredIn suite key (begun.flatMap sc.deeds) ++ measuredIn suite key last := by
  rw [measuredIn_append, history, measuredIn, List.filterMap_cons_none rfl, ← measuredIn,
    measuredIn_append]

/-- Every record of a history is the aggregate of a cell, and was made of just what the
    history measures for the key of that cell. -/
def RecordsMeasured (sc : Scenario) (config : Config) (h : History) : Prop :=
  ∀ a taken, .record a taken ∈ h → ∃ c ∈ config.cells, a = sc.aggregate config c ∧
    measuredIn c.suite c.key h = figuresOf (sc.outcomes (c.trials config.sweep.runs))

/-- The records of a history are those of the cells that are done. -/
theorem mem_of_record_mem_history {done : List Cell} {begun : List Trial} {a : Aggregate}
    {taken : Bool} (ha : .record a taken ∈ sc.history config done begun) :
    ∃ c ∈ done, a = sc.aggregate config c := by
  rcases List.mem_cons.mp ha with heq | ha
  · cases heq
  rcases List.mem_append.mp ha with ha | ha
  · obtain ⟨c, hc, ha⟩ := List.mem_flatMap.mp ha
    rcases List.mem_append.mp ha with ha | ha
    · obtain ⟨t, -, ha⟩ := List.mem_flatMap.mp ha
      exact absurd ha (sc.record_not_mem_deeds t a taken)
    · exact ⟨c, hc, (Deed.record.inj (List.mem_singleton.mp ha)).1⟩
  · obtain ⟨t, -, ha⟩ := List.mem_flatMap.mp ha
    exact absurd ha (sc.record_not_mem_deeds t a taken)

/-- What is measured for a cell that is done, if what comes behind it is of other cells. -/
theorem measuredIn_done {done rest : List Cell} {begun : List Trial} {last : History}
    (hnodup : ((done ++ rest).map Cell.key).Nodup) (hc : c ∈ done)
    (hbegun : ∀ t ∈ begun, ∃ c' ∈ rest, t.key = c'.key)
    (hlast : measuredIn c.suite c.key last = []) :
    measuredIn c.suite c.key (sc.history config done begun ++ last)
      = figuresOf (sc.outcomes (c.trials config.sweep.runs)) := by
  obtain ⟨before, after, rfl⟩ := List.append_of_mem hc
  rw [List.map_append, List.nodup_append] at hnodup
  obtain ⟨hdone, -, hapart⟩ := hnodup
  rw [List.map_append, List.map_cons, List.nodup_append, List.nodup_cons] at hdone
  obtain ⟨-, ⟨hafter, -⟩, hbefore⟩ := hdone
  have hbefore' : ∀ d ∈ before, d.key ≠ c.key := fun d hd =>
    hbefore _ (List.mem_map_of_mem hd) _ List.mem_cons_self
  have hafter' : ∀ d ∈ after, d.key ≠ c.key := fun d hd heq =>
    hafter (heq ▸ List.mem_map_of_mem hd)
  have hbegun' : ∀ t ∈ begun, t.key ≠ c.key := by
    intro t ht heq
    obtain ⟨c', hc', hkey⟩ := hbegun t ht
    exact hapart _ (List.mem_map_of_mem hc) _ (List.mem_map_of_mem hc') (heq.symm.trans hkey)
  rw [measuredIn_position, hlast, measuredIn_flatMap_deeds_of_ne hbegun', List.append_nil,
    List.append_nil, List.flatMap_append, List.flatMap_cons, measuredIn_append,
    measuredIn_append, measuredIn_cells_of_ne hbefore', measuredIn_cells_of_ne hafter',
    List.nil_append, List.append_nil, measuredIn_cellDeeds]
  exact measuredIn_flatMap_deeds fun t ht => mem_trials ht

/-- Up to a position of the next cell, records were measured, whether or not one more
    trial of that cell has been launched. -/
theorem recordsMeasured_position {done rest : List Cell} {last : History}
    (hnodup : (config.cells.map Cell.key).Nodup) (hcells : config.cells = done ++ c :: rest)
    (hlast : last = [] ∨ ∃ e, last = [.trial (c.trial n) e]) :
    sc.RecordsMeasured config (sc.history config done (c.first n) ++ last) := by
  intro a taken ha
  have hold : .record a taken ∈ sc.history config done (c.first n) := by
    rcases List.mem_append.mp ha with ha | ha
    · exact ha
    · rcases hlast with rfl | ⟨e, rfl⟩
      · exact nomatch ha
      · exact nomatch List.mem_singleton.mp ha
  obtain ⟨d, hd, hrecord⟩ := mem_of_record_mem_history hold
  rw [hcells] at hnodup
  refine ⟨d, ?_, hrecord, measuredIn_done hnodup hd ?_ ?_⟩
  · rw [hcells]
    exact List.mem_append_left _ hd
  · intro t ht
    obtain ⟨k, -, rfl⟩ := List.mem_map.mp ht
    exact ⟨c, List.mem_cons_self, rfl⟩
  · rcases hlast with rfl | ⟨e, rfl⟩
    · rfl
    · have hne : (c.trial n).key ≠ d.key := by
        rw [List.map_append, List.nodup_append] at hnodup
        exact (hnodup.2.2 _ (List.mem_map_of_mem hd) _
          (List.mem_map_of_mem List.mem_cons_self)).symm
      exact List.filterMap_cons_none (Deed.measured?_trial_of_ne hne e)

variable (sc) in
/-- What is measured for a cell when it is done, and nothing has been begun. -/
theorem measuredIn_history_done {done rest : List Cell}
    (hnodup : (config.cells.map Cell.key).Nodup) (hcells : config.cells = done ++ rest)
    (hc : c ∈ done) : c ∈ config.cells ∧ measuredIn c.suite c.key (sc.history config done [])
      = figuresOf (sc.outcomes (c.trials config.sweep.runs)) := by
  rw [hcells] at hnodup ⊢
  rw [← List.append_nil (sc.history config done [])]
  exact ⟨List.mem_append_left _ hc, measuredIn_done hnodup hc (fun t ht => nomatch ht) rfl⟩

/-- When all cells are done, records were measured. -/
theorem recordsMeasured_done (hnodup : (config.cells.map Cell.key).Nodup) :
    sc.RecordsMeasured config (sc.history config config.cells []) := by
  intro a taken ha
  obtain ⟨c, hc, hrecord⟩ := mem_of_record_mem_history ha
  obtain ⟨hmem, hmeasured⟩ := measuredIn_history_done sc hnodup (List.append_nil _).symm hc
  exact ⟨c, hmem, hrecord, hmeasured⟩

/-- The record of a cell was measured even if the sink refuses it. -/
theorem recordsMeasured_refused {done rest : List Cell}
    (hnodup : (config.cells.map Cell.key).Nodup) (hcells : config.cells = done ++ c :: rest) :
    sc.RecordsMeasured config (sc.history config done (c.trials config.sweep.runs)
      ++ [.record (sc.aggregate config c) false]) := by
  intro a taken ha
  obtain ⟨d, hd, hrecord⟩ : ∃ d ∈ done ++ [c], a = sc.aggregate config d := by
    rcases List.mem_append.mp ha with ha | ha
    · obtain ⟨d, hd, hrecord⟩ := mem_of_record_mem_history ha
      exact ⟨d, List.mem_append_left _ hd, hrecord⟩
    · exact ⟨c, List.mem_append_right _ List.mem_cons_self,
        (Deed.record.inj (List.mem_singleton.mp ha)).1⟩
  rw [List.append_cons] at hcells
  obtain ⟨hmem, hmeasured⟩ := measuredIn_history_done sc hnodup hcells hd
  refine ⟨d, hmem, hrecord, ?_⟩
  -- a record measures nothing, whether it is taken or refused
  rw [← history_last, measuredIn_snoc_of_none rfl] at hmeasured
  rw [measuredIn_snoc_of_none rfl, hmeasured]

/-- **EVERY RUN** records just what it has measured. -/
theorem run_recordsMeasured (hsound : config.Sound) :
    sc.RecordsMeasured config (sc.run config).2 := by
  have hnodup := hsound.nodup_keys
  cases hheader : sc.headerFault? with
  | some fault =>
      rw [run_refused hheader]
      intro a taken ha
      exact nomatch List.mem_singleton.mp ha
  | none =>
      obtain ⟨-, ⟨-, hrun⟩ | ⟨cut, hcut, -⟩⟩ := run_course config hheader
      · rw [hrun]
        exact recordsMeasured_done hnodup
      · generalize (sc.run config).2 = h at hcut
        cases hcut with
        | interrupted hcells hn hlast hfired =>
            exact recordsMeasured_position hnodup hcells (hlast.imp_right fun h => ⟨_, h⟩)
        | refused hcells hrefused => exact recordsMeasured_refused hnodup hcells
        | overflow hcells hn hlast hover =>
            exact recordsMeasured_position hnodup hcells (hlast.imp_right fun h => ⟨_, h⟩)

end Scenario

/-! ## What is published -/

/-- **WHAT IS PUBLISHED WAS MEASURED**, in every run of an accepted configuration,
    whether it goes through, is interrupted, or ends at a record or header that the
    sink refuses.  A record belongs to a suite of the catalog and counts exactly the
    figures that the run has measured for its configuration with the marker of that
    suite.  If it has a median, then this is the figure of some trial of just this
    configuration that has ended by itself and with success, and so are the least and
    the greatest figure that it gives. -/
theorem records_are_measured {raw : RawConfig} {overrides : Overrides} {config : Config}
    (hconfig : Settings.validate raw overrides = .ok config) (sc : Scenario) {a : Aggregate}
    {taken : Bool} (hrecord : .record a taken ∈ (sc.run config).2) :
    ∃ suite ∈ config.catalog.suites, suite.name = a.key.suite
      ∧ a.successes = (measuredIn suite a.key (sc.run config).2).length
      ∧ ∀ stats, a.measurement = .median stats → ∀ ops ∈ [stats.median, stats.min, stats.max],
          ∃ t output status, .trial t (.exited output status) ∈ (sc.run config).2
            ∧ t.key = a.key ∧ status.isSuccess = true
            ∧ Throughput.extract? (String.ofList (Text.decodeUtf8 output)) suite.marker
                = some ops := by
  have hmeasured := sc.run_recordsMeasured (Settings.validate_sound hconfig)
  obtain ⟨c, hc, rfl, hfigures⟩ := hmeasured a taken hrecord
  refine ⟨c.suite, config.suite_of_mem_cells hc, rfl, ?_, ?_⟩
  · exact congrArg List.length hfigures.symm
  · intro stats hmedian ops hops
    have hstats := Aggregate.ofSamples?_of_measurement_eq hmedian
    rw [← hfigures] at hstats
    exact mem_measuredIn_iff.mp (Statistics.mem_of_ofSamples? hstats ops hops)

/-- The first trial of each configuration prints a figure and fails, the second one
    prints another figure and does not. -/
def spoiledEnding (t : Trial) : Ending :=
  if t.repetition = 0 then .exited "Ops/sec = 9".toUTF8.toList (.code 1)
  else .exited "Ops/sec = 7".toUTF8.toList (.code 0)

/-- The scenario of these endings, with nothing else in the way. -/
def spoiledScenario : Scenario :=
  { skiplistScenario with
    ending := spoiledEnding
    finishes := by
      intro t
      rw [spoiledEnding]
      split
      · exact fun h => nomatch h
      · exact fun h => nomatch h }

/-- Each configuration has a record with a median, which a trial has printed that did
    not fail. -/
theorem spoiled_records_are_measured :
    Settings.validate {} skiplistOverrides = .ok skiplistConfig
    ∧ ∃ a stats, .record a true ∈ (spoiledScenario.run skiplistConfig).2
      ∧ a.measurement = .median stats
      ∧ ∃ suite ∈ skiplistConfig.catalog.suites, suite.name = a.key.suite
        ∧ a.successes = (measuredIn suite a.key (spoiledScenario.run skiplistConfig).2).length
        ∧ ∃ t output status,
            .trial t (.exited output status) ∈ (spoiledScenario.run skiplistConfig).2
            ∧ t.key = a.key ∧ status.isSuccess = true
            ∧ Throughput.extract? (String.ofList (Text.decodeUtf8 output)) suite.marker
                = some stats.median := by
  have hconfig : Settings.validate {} skiplistOverrides = .ok skiplistConfig := rfl
  have hfit := skiplistConfig_fits
  have hquiet : spoiledScenario.Quiet := fun _ => rfl
  have haccepts : spoiledScenario.Accepts := ⟨rfl, fun _ _ => rfl⟩
  have hfigures : ∀ c ∈ skiplistConfig.cells, skiplistConfig.required
      ≤ (figuresOf (spoiledScenario.outcomes (c.trials skiplistConfig.sweep.runs))).length := by
    decide +kernel
  obtain ⟨c, hc⟩ : ∃ c, c ∈ skiplistConfig.cells := ⟨_, List.mem_cons_self⟩
  obtain ⟨stats, -, hmedian⟩ :
      ∃ stats, _ ∧ (spoiledScenario.aggregate skiplistConfig c).measurement = .median stats :=
    Aggregate.measurement_of_le (by decide) (hfigures c hc)
  have hrecord : .record (spoiledScenario.aggregate skiplistConfig c) true
      ∈ (spoiledScenario.run skiplistConfig).2 := by
    rw [Scenario.run_complete hfit hquiet haccepts]
    exact List.mem_cons_of_mem _ (List.mem_append_left _ (List.mem_flatMap.mpr
      ⟨c, hc, List.mem_append_right _ List.mem_cons_self⟩))
  obtain ⟨suite, hsuite, hname, hsuccesses, hfigure⟩ :=
    records_are_measured hconfig spoiledScenario hrecord
  exact ⟨hconfig, _, stats, hrecord, hmedian, suite, hsuite, hname, hsuccesses,
    hfigure stats hmedian stats.median List.mem_cons_self⟩

end BenchSweep
