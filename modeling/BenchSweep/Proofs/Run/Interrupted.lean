import BenchSweep.Proofs.Run.Uninterrupted

/-! # Runs that are interrupted

    An interrupt may fire at any moment of a run.  What a run keeps then depends
    only on how many trials it has completed (`Scenario.StopsAfter`): the
    aggregates of the cells that are complete, and nothing of the one that is
    not.  All runs of a configuration keep to that exactly if the trials of all its
    suites can be counted by a 64-bit word (`keepsCompleteCells_iff_fits`).  Otherwise
    a count overflows before the last trial has run, and it may do so before the
    first. -/

namespace BenchSweep

/-- The trial that a deed completes. -/
def Deed.completed? : Deed → Option Trial
  | .trial t e => if e = .interrupted then none else some t
  | _          => none

/-- The aggregate that a deed publishes. -/
def Deed.published? : Deed → Option Aggregate
  | .record a true => some a
  | _              => none

/-- The trials that were completed. -/
def completedIn (h : History) : List Trial := h.filterMap Deed.completed?

/-- The aggregates that the sink has taken. -/
def publishedIn (h : History) : List Aggregate := h.filterMap Deed.published?

namespace Scenario

variable (sc : Scenario) (config : Config)

/-- A run that returns `s` has stopped after `k` trials: early exactly if these
    are not all trials.  Of the aggregates that the undisturbed run publishes it
    has published those of the complete cells, each of them from all repetitions;
    an incomplete cell is counted as discarded, and no trial was started once the
    interrupt had fired. -/
structure StopsAfter (s : Summary) (k : Nat) : Prop where
  completed : completedIn (sc.run config).2 = config.trials.take k
  le_total : k ≤ config.trials.length
  trials : s.trials = k
  interrupted_iff : s.interrupted = true ↔ k < config.trials.length
  discarded : s.discarded = if k % config.runs = 0 then 0 else 1
  published : publishedIn (sc.run config).2
    = (publishedIn (sc.undisturbed.run config).2).take (k / config.runs)
  whole : ∀ a ∈ publishedIn (sc.run config).2,
    a.runs = config.runs ∧ a.successes + a.failures.length = config.runs
  heeds : sc.Heeds (sc.run config).2
  fired : s.interrupted = true → sc.fired (sc.run config).2 = true

/-! ## Reading a history -/

theorem completedIn_append (h h' : History) :
    completedIn (h ++ h') = completedIn h ++ completedIn h' := List.filterMap_append

theorem publishedIn_append (h h' : History) :
    publishedIn (h ++ h') = publishedIn h ++ publishedIn h' := List.filterMap_append

section Reading

variable {α : Type} {f : Deed → Option α}
  (hheader : ∀ dims suites taken, f (.header dims suites taken) = none)
  (hcapture : ∀ path text, f (.capture path text) = none)

include hcapture in
/-- What is read off the deeds of a trial, if captures are passed over. -/
theorem filterMap_deeds (t : Trial) :
    (sc.deeds t).filterMap f = (f (.trial t (sc.ending t))).toList := by
  rw [deeds, captures]
  cases sc.captureDir? with
  | none =>
      rw [List.filterMap_cons]
      cases f (.trial t (sc.ending t)) with
      | none => rfl
      | some a => rfl
  | some dir =>
      rw [List.filterMap_cons, List.filterMap_cons_none (hcapture _ _)]
      cases f (.trial t (sc.ending t)) with
      | none => rfl
      | some a => rfl

include hheader hcapture in
/-- What is read off a history: something of every trial, and of every complete cell
    something of its record. -/
theorem filterMap_history (done : List Cell) (begun : List Trial) :
    (sc.history config done begun).filterMap f
      = (done.flatMap fun c =>
          (c.trials config.sweep.runs).filterMap (fun t => f (.trial t (sc.ending t)))
            ++ (f (.record (sc.aggregate config c) true)).toList)
        ++ begun.filterMap fun t => f (.trial t (sc.ending t)) := by
  have hdeeds : ∀ ts : List Trial, (ts.flatMap sc.deeds).filterMap f
      = ts.filterMap fun t => f (.trial t (sc.ending t)) := by
    intro ts
    rw [List.filterMap_flatMap, List.filterMap_eq_flatMap_toList]
    simp only [filterMap_deeds sc hcapture]
  have hrecord : ∀ a, [Deed.record a true].filterMap f = (f (.record a true)).toList := by
    intro a
    rw [List.filterMap_cons]
    cases f (.record a true) with
    | none => rfl
    | some b => rfl
  rw [history, List.filterMap_cons_none (hheader _ _ _), List.filterMap_append, hdeeds,
    List.filterMap_flatMap]
  simp only [cellDeeds, List.filterMap_append, hdeeds, hrecord]

end Reading

theorem completed?_ending (t : Trial) : Deed.completed? (.trial t (sc.ending t)) = some t :=
  if_neg (sc.finishes t)

/-- The trials of a history are those of its position. -/
theorem completedIn_history (done : List Cell) (begun : List Trial) :
    completedIn (sc.history config done begun)
      = done.flatMap (·.trials config.sweep.runs) ++ begun := by
  rw [completedIn, filterMap_history sc config (fun _ _ _ => rfl) (fun _ _ => rfl)]
  simp only [completed?_ending, List.filterMap_some]
  simp only [Deed.completed?, Option.toList_none, List.append_nil]

/-- The aggregates of a history are those of the complete cells. -/
theorem publishedIn_history (done : List Cell) (begun : List Trial) :
    publishedIn (sc.history config done begun) = done.map (sc.aggregate config) := by
  rw [publishedIn, filterMap_history sc config (fun _ _ _ => rfl) (fun _ _ => rfl)]
  simp only [Deed.published?, List.filterMap_none, Option.toList_some, List.nil_append,
    List.append_nil]
  exact List.flatMap_pure_eq_map _ _

/-- An aggregate that a history holds was built from all repetitions. -/
theorem whole_of_mem_history {done : List Cell} {begun : List Trial} {a : Aggregate}
    (ha : a ∈ publishedIn (sc.history config done begun)) :
    a.runs = config.runs ∧ a.successes + a.failures.length = config.runs := by
  rw [publishedIn_history] at ha
  obtain ⟨c, -, rfl⟩ := List.mem_map.mp ha
  refine ⟨rfl, ?_⟩
  have hlength := length_figuresOf_add (sc.outcomes (c.trials config.sweep.runs))
  rw [outcomes, List.length_map, Cell.length_trials] at hlength
  exact hlength

/-! ## Counting trials -/

section Counting

variable {sc config} {done rest : List Cell} {c : Cell} {n : Nat}

/-- The undisturbed run publishes the aggregates of all cells. -/
theorem publishedIn_undisturbed (hfit : config.Fits) (haccepts : sc.Accepts) :
    publishedIn (sc.undisturbed.run config).2 = config.cells.map (sc.aggregate config) := by
  rw [run_complete hfit sc.undisturbed_quiet haccepts.undisturbed, publishedIn_history]
  rfl

/-- An open cell counts as one discarded configuration. -/
theorem length_pendingOf_first :
    (sc.pendingOf (c.first n)).length = if n = 0 then 0 else 1 := by
  cases n with
  | zero => rfl
  | succ n =>
      rw [pendingOf_first_succ]
      rfl

end Counting

/-! ## What a run keeps -/

variable {sc config}

/-- A run that completes all cells. -/
theorem stopsAfter_complete (hfit : config.Fits) (haccepts : sc.Accepts)
    (hheeds : sc.Heeds (sc.run config).2)
    (hrun : sc.run config = (.ok (sc.progress config config.cells []).summary,
      sc.history config config.cells [])) :
    sc.StopsAfter config (sc.progress config config.cells []).summary config.trials.length := by
  have hruns : 0 < config.runs := config.sweep.runs.toNat_pos
  have htrials : config.cells.flatMap (·.trials config.sweep.runs) = config.trials :=
    config.trials_eq_cells.symm
  have htotal : config.trials.length = config.cells.length * config.runs := by
    rw [config.trials_eq_cells, config.length_flatMap_trials]
  refine ⟨?_, Nat.le_refl _, ?_, ?_, ?_, ?_, ?_, hheeds, ?_⟩
  · rw [hrun, completedIn_history, htrials, List.append_nil, List.take_length]
  · show (sc.outcomes (config.cells.flatMap (·.trials config.sweep.runs) ++ [])).length = _
    rw [htrials, List.append_nil, outcomes, List.length_map]
  · constructor
    · exact fun h => absurd h Bool.false_ne_true
    · exact fun h => absurd h (Nat.lt_irrefl _)
  · rw [htotal, Nat.mul_mod_left, if_pos rfl]
    rfl
  · rw [publishedIn_undisturbed hfit haccepts, hrun, publishedIn_history, htotal,
      Nat.mul_div_cancel _ hruns, ← List.length_map (sc.aggregate config), List.take_length]
  · intro a ha
    rw [hrun] at ha
    exact sc.whole_of_mem_history config ha
  · exact fun h => absurd h Bool.false_ne_true

/-- A run that is interrupted in a cell. -/
theorem stopsAfter_interrupted {done rest : List Cell} {c : Cell} {n : Nat} {last : History}
    (hfit : config.Fits) (haccepts : sc.Accepts) (hheeds : sc.Heeds (sc.run config).2)
    (hcells : config.cells = done ++ c :: rest) (hn : n < config.runs)
    (hlast : last = [] ∨ last = [.trial (c.trial n) .interrupted])
    (hhistory : (sc.run config).2 = sc.history config done (c.first n) ++ last)
    (hfired : sc.fired (sc.run config).2 = true) :
    sc.StopsAfter config (sc.progress config done (c.first n)).stop
      (done.length * config.runs + n) := by
  have hruns : 0 < config.runs := config.sweep.runs.toNat_pos
  have hcompleted : completedIn (sc.run config).2
      = done.flatMap (·.trials config.sweep.runs) ++ c.first n := by
    rw [hhistory, completedIn_append, completedIn_history]
    rcases hlast with rfl | rfl
    · exact List.append_nil _
    · exact List.append_nil _
  have hpublished : publishedIn (sc.run config).2 = done.map (sc.aggregate config) := by
    rw [hhistory, publishedIn_append, publishedIn_history]
    rcases hlast with rfl | rfl
    · exact List.append_nil _
    · exact List.append_nil _
  have hdiv : (done.length * config.runs + n) / config.runs = done.length := by
    rw [Nat.mul_comm, Nat.mul_add_div hruns, Nat.div_eq_of_lt hn, Nat.add_zero]
  have hmod : (done.length * config.runs + n) % config.runs = n := by
    rw [Nat.mul_comm, Nat.mul_add_mod, Nat.mod_eq_of_lt hn]
  have hlt := Config.lt_length_trials hcells hn
  refine ⟨?_, Nat.le_of_lt hlt, ?_, ?_, ?_, ?_, ?_, hheeds, fun _ => hfired⟩
  · rw [hcompleted, Config.take_trials hcells (Nat.le_of_lt hn)]
  · show (sc.outcomes (done.flatMap (·.trials config.sweep.runs) ++ c.first n)).length = _
    rw [outcomes, List.length_map, List.length_append, config.length_flatMap_trials, Cell.length_first]
  · exact ⟨fun _ => hlt, fun _ => rfl⟩
  · show 0 + (sc.pendingOf (c.first n)).length = _
    rw [Nat.zero_add, length_pendingOf_first, hmod]
  · rw [publishedIn_undisturbed hfit haccepts, hpublished, hdiv, hcells, List.map_append,
      ← List.length_map (sc.aggregate config), List.take_left]
  · intro a ha
    rw [hpublished, ← publishedIn_history sc config done []] at ha
    exact sc.whole_of_mem_history config ha

end Scenario

/-- In every scenario with a sink that takes everything, a run keeps just the
    cells it has completed. -/
def Config.KeepsCompleteCells (config : Config) : Prop :=
  ∀ sc : Scenario, sc.Accepts →
    ∃ s k, (sc.run config).1 = .ok s ∧ sc.StopsAfter config s k

/-- Runs keep just their complete cells if the trials can be counted. -/
theorem Config.Fits.keepsCompleteCells {config : Config} (hfit : config.Fits) :
    config.KeepsCompleteCells := by
  intro sc haccepts
  obtain ⟨hheeds, ⟨-, hrun⟩ | ⟨cut, hcut, hanswer⟩⟩ :=
    Scenario.run_course config haccepts.header
  · exact ⟨_, _, congrArg Prod.fst hrun, Scenario.stopsAfter_complete hfit haccepts hheeds hrun⟩
  · generalize hhistory : (sc.run config).2 = h at hcut
    cases hcut with
    | interrupted hcells hn hlast hfired =>
        rw [← hhistory] at hfired
        exact ⟨_, _, hanswer, Scenario.stopsAfter_interrupted hfit haccepts hheeds hcells hn hlast
          hhistory hfired⟩
    | refused hcells hrefused => exact nomatch (haccepts.record _ _).symm.trans hrefused
    | overflow hcells hn hlast hover => exact absurd hfit hover

end BenchSweep
