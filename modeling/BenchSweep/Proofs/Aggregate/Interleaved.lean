import BenchSweep.Proofs.Aggregate.Refinement
import BenchSweep.Proofs.Aggregate.Statistics

/-! # Interleaved repetitions

    The repetitions of several configurations may arrive in any order, as long as the last
    repetition of each comes after its others (`Gathers`).  Then an aggregate is handed
    over at every last repetition and at no other result (`answers_of_gathers`), nothing
    stays pending, and but for the order of its failures each aggregate is the same for
    all such orders (`interleaving_keeps_aggregates`). -/

namespace BenchSweep

/-- The same aggregate, with its failures in any order. -/
structure Aggregate.Agrees (a b : Aggregate) : Prop where
  key_eq         : a.key = b.key
  measurement_eq : a.measurement = b.measurement
  successes_eq   : a.successes = b.successes
  runs_eq        : a.runs = b.runs
  failures_perm  : a.failures.Perm b.failures

/-- **OUTCOMES IN ANOTHER ORDER** make the same aggregate. -/
theorem Aggregate.ofOutcomes_agrees {os os' : List Outcome} (h : os.Perm os') (key : Key)
    (runs least : Nat) :
    Agrees (ofOutcomes key runs least os) (ofOutcomes key runs least os') := by
  have hfigures : (figuresOf os).Perm (figuresOf os') := h.filterMap _
  refine ⟨rfl, ?_, hfigures.length_eq, rfl, h.filterMap _⟩
  rw [ofOutcomes, ofOutcomes]
  simp only [Statistics.ofSamples?_perm hfigures, hfigures.length_eq]

namespace Aggregator

/-- The results of a key among some results. -/
def resultsOf (key : Key) (rs : List TrialResult) : List TrialResult :=
  rs.filter (·.key = key)

/-- The aggregate of all results of a key. -/
def gathered (runs least : Nat) (rs : List TrialResult) (key : Key) : Aggregate :=
  Aggregate.ofOutcomes key runs least ((resultsOf key rs).map (·.outcome))

/-- Results in an order that gathers configurations: each key has one result for every
    repetition, and the one of the last repetition comes last. -/
structure Gathers (runs : Nat) (keys : List Key) (rs : List TrialResult) : Prop where
  key_mem : ∀ r ∈ rs, r.key ∈ keys
  once    : ∀ key ∈ keys, ((resultsOf key rs).map (·.repetition.toNat)).Perm (List.range runs)
  last    : ∀ key ∈ keys, ((resultsOf key rs).map (·.repetition.toNat)).getLast? = some (runs - 1)

/-! ## Repetitions before the last one -/

/-- What comes before a number in an arrangement of `0, …, runs - 1` that ends with the
    greatest is less than the greatest. -/
theorem early_of_last {runs k : Nat} {before behind : List Nat}
    (hperm : (before ++ k :: behind).Perm (List.range runs))
    (hlast : (before ++ k :: behind).getLast? = some (runs - 1)) :
    (∀ i ∈ before, i + 1 < runs) ∧ before.length + 1 + behind.length = runs ∧
      (k + 1 = runs ↔ behind = []) := by
  have hlength := hperm.length_eq
  rw [List.length_append, List.length_cons, List.length_range] at hlength
  have hlt : ∀ i ∈ before ++ k :: behind, i < runs :=
    fun i hi => List.mem_range.mp (hperm.mem_iff.mp hi)
  obtain ⟨-, hnodup, hdisjoint⟩ := List.nodup_append.mp (hperm.nodup_iff.mpr List.nodup_range)
  rw [List.getLast?_append_of_ne_nil _ (List.cons_ne_nil k behind)] at hlast
  -- the greatest number is at the end, so by `hnodup` and `hdisjoint` nowhere else
  have hmem : runs - 1 ∈ k :: behind := List.mem_of_getLast? hlast
  refine ⟨?_, by omega, ?_⟩
  · intro i hi
    have hne := hdisjoint i hi _ hmem
    have := hlt i (List.mem_append_left _ hi)
    omega
  · constructor
    · intro hk
      refine Decidable.byContradiction fun hne => ?_
      rw [← List.singleton_append, List.getLast?_append_of_ne_nil _ hne] at hlast
      have hbehind := List.mem_of_getLast? hlast
      rw [← hk] at hbehind
      exact (List.nodup_cons.mp hnodup).1 hbehind
    · rintro rfl
      have hk : k = runs - 1 := by simpa using hlast
      rw [List.length_nil] at hlength
      omega

theorem resultsOf_append (key : Key) (rs rs' : List TrialResult) :
    resultsOf key (rs ++ rs') = resultsOf key rs ++ resultsOf key rs' :=
  List.filter_append ..

theorem resultsOf_cons_self (r : TrialResult) (rs : List TrialResult) :
    resultsOf r.key (r :: rs) = r :: resultsOf r.key rs :=
  List.filter_cons_of_pos (by simp)

variable {runs : Nat} {keys : List Key} {past rest : List TrialResult} {r : TrialResult}

/-- **ONE RESULT** in such an order: before it its key has early results only, and it is
    the last of its key if it is its last repetition. -/
theorem Gathers.place (h : Gathers runs keys (past ++ r :: rest)) :
    (∀ r' ∈ resultsOf r.key past, r'.repetition.toNat + 1 < runs) ∧
      (resultsOf r.key past).length + 1 + (resultsOf r.key rest).length = runs ∧
      (r.repetition.toNat + 1 = runs ↔ resultsOf r.key rest = []) := by
  have hkey := h.key_mem r (List.mem_append_right _ List.mem_cons_self)
  have honce := h.once _ hkey
  have hlast := h.last _ hkey
  rw [resultsOf_append, resultsOf_cons_self, List.map_append, List.map_cons] at honce hlast
  obtain ⟨hearly, hlength, hiff⟩ := early_of_last honce hlast
  rw [List.length_map, List.length_map] at hlength
  rw [List.map_eq_nil_iff] at hiff
  exact ⟨fun r' hr' => hearly _ (List.mem_map_of_mem hr'), hlength, hiff⟩

theorem Gathers.repetition_lt {rs : List TrialResult} (h : Gathers runs keys rs) (hr : r ∈ rs) :
    r.repetition.toNat < runs := by
  have hmem : r ∈ resultsOf r.key rs := List.mem_filter.mpr ⟨hr, by simp⟩
  exact List.mem_range.mp ((h.once _ (h.key_mem r hr)).mem_iff.mp (List.mem_map_of_mem hmem))

/-! ## The blocks of gathered results -/

/-- The calls that push some results. -/
def pushes (rs : List TrialResult) : List Call := rs.map .push

theorem pushes_snoc (rs : List TrialResult) (r : TrialResult) :
    pushes (rs ++ [r]) = pushes rs ++ [.push r] :=
  List.map_append

/-- No repetition that is pushed is the greatest word. -/
theorem Gathers.push_lt {runs : RunCount} {rs : List TrialResult}
    (h : Gathers runs.val.toNat keys rs) :
    ∀ r, .push r ∈ pushes rs → r.repetition.toNat + 1 < 2 ^ 32 := by
  intro r hr
  obtain ⟨r', hr', heq⟩ := List.mem_map.mp hr
  obtain rfl := Call.push.inj heq
  have hlt := h.repetition_lt hr'
  have := runs.val.toNat_lt
  omega

theorem arrivals_pushes (key : Key) (rs : List TrialResult) :
    (arrivals key (pushes rs)).map (·.result) = resultsOf key rs := by
  induction rs using List.reverseRecOn with
  | nil => rfl
  | append_singleton rs r ih =>
      rw [pushes_snoc, arrivals_snoc_push, List.map_append, ih, resultsOf_append]
      by_cases hkey : r.key = key
      · simp [resultsOf, hkey]
      · simp [resultsOf, hkey]

/-- Early results of a key, fewer than there are repetitions, stay in one open block. -/
theorem current_pushes {key : Key} {rs : List TrialResult}
    (hearly : ∀ r ∈ resultsOf key rs, r.repetition.toNat + 1 < runs)
    (hshort : (resultsOf key rs).length < runs) :
    (cutAt runs key (pushes rs)).current = arrivals key (pushes rs) := by
  induction rs using List.reverseRecOn with
  | nil => rfl
  | append_singleton rs r ih =>
      rw [resultsOf_append] at hearly hshort
      have hcurrent := ih (fun r hr => hearly r (List.mem_append_left _ hr))
        (by rw [List.length_append] at hshort; omega)
      rw [pushes_snoc, arrivals_snoc_push]
      by_cases hkey : r.key = key
      · subst hkey
        have hself : resultsOf r.key [r] = [r] := resultsOf_cons_self r []
        have hlength : (arrivals r.key (pushes rs)).length = (resultsOf r.key rs).length := by
          rw [← arrivals_pushes, List.length_map]
        rw [hself] at hearly hshort
        rw [List.length_append, List.length_singleton] at hshort
        -- `r` is not of the last repetition, and one more result is still to come
        have hopen : ¬ (runs ≤ r.repetition.toNat + 1 ∨
            runs ≤ (arrivals r.key (pushes rs) ++ ([⟨(pushes rs).length, r⟩] : Block)).length) := by
          have := hearly r (List.mem_append_right _ List.mem_cons_self)
          rw [List.length_append, List.length_singleton, hlength]
          omega
        rw [current_push, hcurrent, if_pos rfl]
        exact if_neg hopen
      · rw [current_push_of_ne hkey, if_neg hkey, List.append_nil]
        exact hcurrent

/-- The block that a result is added to holds all results of its key before it. -/
theorem Gathers.block (h : Gathers runs keys (past ++ r :: rest)) :
    ((cutAt runs r.key (pushes past)).current ++ ([⟨(pushes past).length, r⟩] : Block)).map
      (·.result) = resultsOf r.key past ++ [r] := by
  obtain ⟨hearly, hlength, -⟩ := h.place
  rw [current_pushes hearly (by omega), List.map_append, arrivals_pushes]
  rfl

/-- The block is complete with the last repetition, and not before. -/
theorem Gathers.completes_iff (h : Gathers runs keys (past ++ r :: rest))
    (hlt : r.repetition.toNat < runs) :
    (runs ≤ r.repetition.toNat + 1 ∨ runs ≤ ((cutAt runs r.key (pushes past)).current
      ++ ([⟨(pushes past).length, r⟩] : Block)).length) ↔ r.repetition.toNat + 1 = runs := by
  obtain ⟨-, hlength, hiff⟩ := h.place
  rw [← List.length_map (f := (·.result)), h.block, List.length_append, List.length_singleton]
  constructor
  · rintro (hlast | hfull)
    · omega
    · exact hiff.mpr (List.length_eq_zero_iff.mp (by omega))
  · intro hlast
    exact .inl (Nat.le_of_eq hlast.symm)

/-- The aggregate of the block, if it is complete, is that of all results of its key. -/
theorem Gathers.reduce_block (h : Gathers runs keys (past ++ r :: rest)) (least : Nat)
    (hlast : r.repetition.toNat + 1 = runs) :
    Block.reduce runs least r.key ((cutAt runs r.key (pushes past)).current
        ++ ([⟨(pushes past).length, r⟩] : Block))
      = gathered runs least (past ++ r :: rest) r.key := by
  obtain ⟨-, -, hiff⟩ := h.place
  have hall : resultsOf r.key past ++ [r] = resultsOf r.key (past ++ r :: rest) := by
    rw [resultsOf_append, resultsOf_cons_self, hiff.mp hlast]
  rw [gathered, ← hall, ← h.block, List.map_map]
  rfl

/-- **THE ANSWER** to one result: the aggregate of all results of its key if it is of the
    last repetition, and nothing otherwise. -/
theorem Gathers.answer {runs : RunCount} (h : Gathers runs.val.toNat keys (past ++ r :: rest))
    (least : UInt32) :
    ((Aggregator.new runs least).answers (pushes (past ++ r :: rest)))[past.length]?
      = some (.pushed (if r.repetition.toNat + 1 = runs.val.toNat
          then some (gathered runs.val.toNat (max least.toNat 1) (past ++ r :: rest) r.key)
          else none)) := by
  have hcalls : pushes (past ++ r :: rest) = pushes past ++ .push r :: pushes rest :=
    List.map_append
  obtain ⟨answer, hanswer, hexpected⟩ := expected_answers runs least (hcalls ▸ h.push_lt)
  rw [hcalls, ← List.length_map (f := Call.push)]
  refine hanswer.trans (congrArg some (Eq.trans hexpected (congrArg Answer.pushed ?_)))
  have hiff := h.completes_iff (h.repetition_lt (List.mem_append_right _ List.mem_cons_self))
  by_cases hlast : r.repetition.toNat + 1 = runs.val.toNat
  · rw [if_pos (hiff.mpr hlast), if_pos hlast, h.reduce_block _ hlast]
  · rw [if_neg (fun hc => hlast (hiff.mp hc)), if_neg hlast]

/-! ## What is handed over in all -/

/-- What is handed over at a result. -/
def handedOver (runs least : Nat) (rs : List TrialResult) (r : TrialResult) : Option Aggregate :=
  if r.repetition.toNat + 1 = runs then some (gathered runs least rs r.key) else none

/-- **ALL ANSWERS** in such an order. -/
theorem answers_of_gathers {runs : RunCount} {rs : List TrialResult}
    (h : Gathers runs.val.toNat keys rs) (least : UInt32) :
    (Aggregator.new runs least).answers (pushes rs)
      = rs.map fun r => .pushed (handedOver runs.val.toNat (max least.toNat 1) rs r) := by
  refine List.ext_getElem? fun place => ?_
  rw [List.getElem?_map]
  rcases Nat.lt_or_ge place rs.length with hlt | hge
  · have hsplit : rs.take place ++ rs[place] :: rs.drop (place + 1) = rs := by
      rw [← List.drop_eq_getElem_cons hlt, List.take_append_drop]
    have hanswer := Gathers.answer (hsplit.symm ▸ h) least
    rw [hsplit, List.length_take_of_le (Nat.le_of_lt hlt)] at hanswer
    rw [hanswer, List.getElem?_eq_getElem hlt]
    rfl
  · rw [List.getElem?_eq_none hge, List.getElem?_eq_none]
    · rfl
    · rw [length_answers, pushes, List.length_map]
      exact hge

/-- For a key, what is handed over at its own results. -/
theorem emitted_pushed (runs least : Nat) (all rs : List TrialResult) (key : Key) :
    emitted key (rs.map fun r => .pushed (handedOver runs least all r))
      = (resultsOf key rs).filterMap (handedOver runs least all) := by
  have hone : ∀ r : TrialResult, (handedOver runs least all r).filter (·.key = key)
      = if r.key = key then handedOver runs least all r else none := by
    intro r
    rw [handedOver]
    by_cases hlast : r.repetition.toNat + 1 = runs
    · simp [hlast, Option.filter, gathered, Aggregate.ofOutcomes]
    · simp [hlast]
  have hflat : (rs.map fun r => Answer.pushed (handedOver runs least all r)).flatMap
      Answer.aggregates = rs.filterMap (handedOver runs least all) := by
    rw [List.flatMap_map, List.filterMap_eq_flatMap_toList]
    rfl
  rw [emitted, hflat, List.filter_filterMap, resultsOf, List.filterMap_filter]
  refine List.filterMap_congr fun r _ => ?_
  simpa using hone r

/-- The results of a key are early ones and then one of the last repetition. -/
theorem Gathers.exists_last {rs : List TrialResult} (h : Gathers runs keys rs) {key : Key}
    (hkey : key ∈ keys) :
    ∃ before r, resultsOf key rs = before ++ [r] ∧
      (∀ r' ∈ before, r'.repetition.toNat + 1 < runs) ∧ r.repetition.toNat + 1 = runs := by
  have honce := h.once key hkey
  have hlast := h.last key hkey
  rcases List.eq_nil_or_concat (resultsOf key rs) with hnil | ⟨before, r, hsplit⟩
  · rw [hnil] at hlast
    exact nomatch hlast
  · rw [List.concat_eq_append] at hsplit
    rw [hsplit, List.map_append, List.map_singleton] at honce hlast
    obtain ⟨hearly, -, hiff⟩ := early_of_last honce hlast
    exact ⟨before, r, hsplit, fun r' hr' => hearly _ (List.mem_map_of_mem hr'), hiff.mpr rfl⟩

/-- **ONE AGGREGATE** is handed over for every key. -/
theorem Gathers.emitted_eq {rs : List TrialResult} (h : Gathers runs keys rs) (least : Nat)
    {key : Key} (hkey : key ∈ keys) :
    emitted key (rs.map fun r => .pushed (handedOver runs least rs r))
      = [gathered runs least rs key] := by
  obtain ⟨before, r, hsplit, hearly, hlast⟩ := h.exists_last hkey
  have hmem : r ∈ resultsOf key rs := hsplit ▸ List.mem_append_right _ List.mem_cons_self
  have hsame : r.key = key := of_decide_eq_true (List.mem_filter.mp hmem).2
  have hnone : before.filterMap (handedOver runs least rs) = [] := by
    rw [List.filterMap_eq_nil_iff]
    intro r' hr'
    exact if_neg (Nat.ne_of_lt (hearly r' hr'))
  have hsome : handedOver runs least rs r = some (gathered runs least rs key) := by
    rw [handedOver, if_pos hlast, hsame]
  rw [emitted_pushed, hsplit, List.filterMap_append, hnone, List.nil_append,
    List.filterMap_cons_some hsome, List.filterMap_nil]

/-- Nothing of a key is left open: what is open is early, and the last result is not. -/
theorem Gathers.current_eq_nil {rs : List TrialResult} (h : Gathers runs keys rs)
    (hruns : 0 < runs) (key : Key) : (cutAt runs key (pushes rs)).current = [] := by
  have hsound := cutAt_sound hruns key (pushes rs)
  refine Decidable.byContradiction fun hne => ?_
  have hresults : resultsOf key rs
      = ((cutAt runs key (pushes rs)).closed.map (·.2)).flatten.map (·.result)
        ++ (cutAt runs key (pushes rs)).current.map (·.result) := by
    rw [← arrivals_pushes, ← hsound.partition, ← List.map_append]
    simp [Cut.blocks]
  -- the last result of the key would be in the open block, which has early ones only
  obtain ⟨a, hopen⟩ := List.exists_mem_of_ne_nil _ hne
  have hmem : a.result ∈ resultsOf key rs :=
    hresults ▸ List.mem_append_right _ (List.mem_map_of_mem hopen)
  obtain ⟨hmem, hkey⟩ := List.mem_filter.mp hmem
  obtain ⟨before, r, hsplit, -, hlast⟩ :=
    h.exists_last (of_decide_eq_true hkey ▸ h.key_mem _ hmem)
  have hend := congrArg List.getLast? (hsplit.symm.trans hresults)
  rw [List.getLast?_concat, List.getLast?_append_of_ne_nil _ (by simpa using hne)] at hend
  obtain ⟨a', ha', rfl⟩ := List.mem_map.mp (List.mem_of_getLast? hend.symm)
  exact Nat.ne_of_lt (hsound.isOpen.early a' ha') hlast

/-- Nothing stays pending. -/
theorem Gathers.pending_eq_nil {runs : RunCount} {rs : List TrialResult}
    (h : Gathers runs.val.toNat keys rs) (least : UInt32) :
    ((Aggregator.new runs least).after (pushes rs)).pending = [] := by
  obtain ⟨bs, hbs⟩ := after_tracks runs least (pushes rs) h.push_lt
  have hnone : bs = [] := by
    refine List.eq_nil_iff_forall_not_mem.mpr ?_
    rintro ⟨key, b⟩ hmem
    obtain ⟨rfl, hne⟩ := (hbs.blocks.mem_iff key b).mp hmem
    exact hne (h.current_eq_nil runs.toNat_pos key)
  rw [hbs.pending_eq, hnone]
  rfl

/-- **INTERLEAVING** keeps the aggregates.  If the results of some keys are pushed in an
    order that gathers configurations, an aggregate of all results of its key is handed
    over at every result of a last repetition, and nothing at any other; that is one
    aggregate for every key, and nothing stays pending.  Another order of the same results
    gives the same aggregates, but for the order of their failures. -/
theorem interleaving_keeps_aggregates (runs : RunCount) (least : UInt32) {keys : List Key}
    {rs rs' : List TrialResult} (h : Gathers runs.val.toNat keys rs)
    (h' : Gathers runs.val.toNat keys rs') (hsame : rs.Perm rs') :
    let n := runs.val.toNat
    let answersTo (rs : List TrialResult) := (Aggregator.new runs least).answers (pushes rs)
    answersTo rs = rs.map (fun r => .pushed (if r.repetition.toNat + 1 = n
        then some (gathered n (max least.toNat 1) rs r.key) else none)) ∧
      ((Aggregator.new runs least).after (pushes rs)).pending = [] ∧
      ∀ key ∈ keys, ∃ a a', emitted key (answersTo rs) = [a] ∧ emitted key (answersTo rs') = [a'] ∧
        a.key = key ∧ a.runs = n ∧ a.Agrees a' := by
  intro n answersTo
  refine ⟨answers_of_gathers h least, h.pending_eq_nil least, ?_⟩
  intro key hkey
  have hone : ∀ {rs}, Gathers n keys rs →
      emitted key (answersTo rs) = [gathered n (max least.toNat 1) rs key] := by
    intro rs h
    show emitted key ((Aggregator.new runs least).answers (pushes rs)) = _
    rw [answers_of_gathers h least]
    exact h.emitted_eq _ hkey
  have houtcomes : ((resultsOf key rs).map (·.outcome)).Perm
      ((resultsOf key rs').map (·.outcome)) := (hsame.filter _).map _
  exact ⟨_, _, hone h, hone h', rfl, rfl, Aggregate.ofOutcomes_agrees houtcomes key n _⟩

/-- Two configurations of three repetitions, once interleaved and once one after the
    other. -/
theorem interleaving_two_keys :
    let variant : VariantName := ⟨"mh-orc", by decide⟩
    let suite : SuiteName := ⟨"set-ll-1k", by decide⟩
    let key (threads : ThreadCount) : Key := ⟨suite, variant, threads, ⟨100, by decide⟩⟩
    let one (repetition : UInt32) (outcome : Outcome) : TrialResult :=
      ⟨key ⟨1, by decide⟩, repetition, "", some 0, outcome⟩
    let two (repetition : UInt32) (outcome : Outcome) : TrialResult :=
      ⟨key ⟨2, by decide⟩, repetition, "", some 0, outcome⟩
    let keys := [key ⟨1, by decide⟩, key ⟨2, by decide⟩]
    let rs := [one 1 (.figure 30), two 0 (.figure 7), one 0 (.failed (.timeout 5)),
      two 1 (.figure 9), two 2 (.figure 8), one 2 (.figure 10)]
    let rs' := [two 1 (.figure 9), two 0 (.figure 7), two 2 (.figure 8),
      one 0 (.failed (.timeout 5)), one 1 (.figure 30), one 2 (.figure 10)]
    Gathers 3 keys rs ∧ Gathers 3 keys rs' ∧ rs.Perm rs' ∧
      ((Aggregator.new ⟨3, by decide⟩ 1).after (pushes rs)).pending = [] ∧
      ∃ a a', emitted (key ⟨1, by decide⟩) ((Aggregator.new ⟨3, by decide⟩ 1).answers (pushes rs))
          = [a] ∧
        emitted (key ⟨1, by decide⟩) ((Aggregator.new ⟨3, by decide⟩ 1).answers (pushes rs'))
          = [a'] ∧ a.Agrees a' := by
  intro variant suite key one two keys rs rs'
  have h : Gathers 3 keys rs := ⟨by decide, by decide, by decide⟩
  have h' : Gathers 3 keys rs' := ⟨by decide, by decide, by decide⟩
  have hsame : rs.Perm rs' := by decide
  obtain ⟨-, hpending, hone⟩ := interleaving_keeps_aggregates ⟨3, by decide⟩ 1 h h' hsame
  obtain ⟨a, a', ha, ha', -, -, hagrees⟩ := hone (key ⟨1, by decide⟩) List.mem_cons_self
  exact ⟨h, h', hsame, hpending, a, a', ha, ha', hagrees⟩

end Aggregator

end BenchSweep
