import BenchSweep.Proofs.Aggregate.Refinement

/-! # What stays pending

    Whatever an aggregator has been called for, each of its entries is that of an open
    block (`Aggregator.Tracks`), and an open block is not empty, shorter than the number
    of repetitions and without a last repetition.  So an entry counts at least one
    result and fewer than all, no two entries are of one key, and nothing stays pending
    where there is one repetition only (`Aggregator.Tracks.sound`).  The number of
    repetitions is a 32-bit word, hence none of the counts that a call makes leaves that
    range (`Aggregator.Tracks.countsFit`). -/

namespace BenchSweep

/-- **A PENDING CONFIGURATION** that is in order after some calls: it counts one result
    at least and not all of them, each as a figure or as a failure, and it was made of
    results of its own key that were pushed, none of them of the last repetition or a
    later one. -/
structure Pending.Sound (runs : Nat) (calls : List Aggregator.Call) (p : Pending) : Prop where
  seen_pos : 1 ≤ p.seen
  seen_lt  : p.seen < runs
  seen_eq  : p.seen = p.samples.length + p.failures.length
  made     : ∃ results : List TrialResult,
    p = Pending.ofOutcomes p.key (results.map (·.outcome)) ∧
      ∀ r ∈ results, .push r ∈ calls ∧ r.key = p.key ∧ r.repetition.toNat + 1 < runs

namespace Aggregator

/-- An aggregator whose entries are in order and of different keys. -/
structure Sound (runs : Nat) (calls : List Call) (a : Aggregator) : Prop where
  nodup_keys : (a.pending.map (·.key)).Nodup
  entries    : ∀ p ∈ a.pending, p.Sound runs calls

/-- The numbers that a call counts up or converts stay in 32 bits: the repetition after
    that of the result, the results that are seen of its configuration, and the figures
    of each configuration that is reduced. -/
def CountsFit (a : Aggregator) : Call → Prop
  | .push r =>
      (r.repetition + 1).toNat = r.repetition.toNat + 1
      ∧ (∀ p ∈ a.pending, p.seen + 1 < 2 ^ 32)
      ∧ ∀ p, (absorb a.runs r a.pending).1 = some p → p.samples.length < 2 ^ 32
  | .flush => ∀ p ∈ a.pending, p.samples.length < 2 ^ 32
  | .discard | .pending => True

variable {runs : Nat} {calls : List Call} {bs : List (Key × Block)}

/-- No two open blocks are of one key. -/
theorem OpenBlocks.nodup_keys (h : OpenBlocks runs calls bs) : (bs.map (·.1)).Nodup := by
  rw [List.Nodup, List.pairwise_map]
  refine h.byArrival.imp_of_mem ?_
  rintro ⟨key, b⟩ ⟨key', b'⟩ hx hy hlt hkey
  obtain rfl : key = key' := hkey
  -- both are the block that the key has open, and none starts before itself
  obtain ⟨rfl, -⟩ := (h.mem_iff key b).mp hx
  obtain ⟨rfl, -⟩ := (h.mem_iff key b').mp hy
  exact Nat.lt_irrefl _ hlt

/-- The entry of an open block is in order. -/
theorem OpenBlocks.sound_entry (hruns : 0 < runs) (h : OpenBlocks runs calls bs)
    {x : Key × Block} (hx : x ∈ bs) : (entry x).Sound runs calls := by
  obtain ⟨key, b⟩ := x
  obtain ⟨hb, hne⟩ := (h.mem_iff key b).mp hx
  have hcut := cutAt_sound hruns key calls
  have hopen : Block.IsOpen runs b := hb ▸ hcut.isOpen
  have harrived : ∀ a ∈ b, a ∈ arrivals key calls := by
    intro a ha
    rw [← hcut.partition]
    refine List.mem_flatten.mpr ⟨b, ?_, ha⟩
    rw [Cut.blocks, hb]
    exact List.mem_append_right _ List.mem_cons_self
  refine ⟨?_, ?_, ?_, b.map (·.result), ?_, ?_⟩
  · rw [seen_entry]
    exact List.length_pos_iff.mpr hne
  · rw [seen_entry]
    exact hopen.short
  · exact (length_figuresOf_add _).symm
  · rw [List.map_map]
    rfl
  · rw [List.forall_mem_map]
    intro a ha
    obtain ⟨hcall, hkey⟩ := mem_arrivals.mp (harrived a ha)
    exact ⟨List.mem_of_getElem? hcall, hkey, hopen.early a ha⟩

/-- The figures of an entry are among the results of its block. -/
theorem length_samples_entry_le (x : Key × Block) : (entry x).samples.length ≤ x.2.length := by
  have hall := length_figuresOf_add (x.2.map (·.result.outcome))
  rw [List.length_map] at hall
  exact Nat.le.intro hall

namespace Tracks

variable {minSuccesses : Nat} {a : Aggregator}

/-- **AN AGGREGATOR** in step with the blocks is in order. -/
theorem sound (hruns : 0 < runs) (h : Tracks runs minSuccesses calls a bs) :
    a.Sound runs calls where
  nodup_keys := by
    rw [h.pending_eq, List.map_map]
    exact h.blocks.nodup_keys
  entries := by
    rw [h.pending_eq, List.forall_mem_map]
    exact fun x hx => h.blocks.sound_entry hruns hx

theorem length_samples_lt (hruns : 0 < runs) (h : Tracks runs minSuccesses calls a bs) :
    ∀ p ∈ a.pending, p.samples.length < runs := by
  intro p hp
  have hlt := ((h.sound hruns).entries p hp).seen_lt
  have heq := ((h.sound hruns).entries p hp).seen_eq
  omega

/-- What a push takes out counts no more results than there are repetitions. -/
theorem length_samples_absorbed (hruns : 0 < runs) (h : Tracks runs minSuccesses calls a bs)
    {r : TrialResult} {p : Pending}
    (hp : (absorb a.runs r a.pending).1 = some p) : p.samples.length ≤ runs := by
  obtain ⟨bs', -, habsorb⟩ := absorb_entries (r := r) hruns h.blocks
  rw [h.runs_eq, h.pending_eq, habsorb] at hp
  split at hp
  · obtain rfl := Option.some.inj hp
    refine Nat.le_trans (length_samples_entry_le _) ?_
    rw [List.length_append, List.length_singleton]
    exact (cutAt_sound hruns r.key calls).isOpen.short
  · exact nomatch hp

/-- **THE COUNTS** of a call stay in 32 bits, as the number of repetitions does. -/
theorem countsFit (hruns : 0 < runs) (hword : runs < 2 ^ 32)
    (h : Tracks runs minSuccesses calls a bs) (c : Call)
    (hrep : ∀ r, c = .push r → r.repetition.toNat + 1 < 2 ^ 32) : a.CountsFit c := by
  cases c with
  | push r =>
      refine ⟨?_, ?_, ?_⟩
      · rw [UInt32.toNat_add]
        exact Nat.mod_eq_of_lt (hrep r rfl)
      · intro p hp
        exact Nat.lt_of_le_of_lt ((h.sound hruns).entries p hp).seen_lt hword
      · intro p hp
        exact Nat.lt_of_le_of_lt (h.length_samples_absorbed hruns hp) hword
  | flush => exact fun p hp => Nat.lt_trans (h.length_samples_lt hruns p hp) hword
  | discard => trivial
  | pending => trivial

end Tracks

/-- Where there is one repetition only, nothing is pending. -/
theorem Sound.pending_eq_nil {a : Aggregator} (h : a.Sound 1 calls) : a.pending = [] := by
  rw [List.eq_nil_iff_forall_not_mem]
  intro p hp
  have hpos := (h.entries p hp).seen_pos
  have hlt := (h.entries p hp).seen_lt
  omega

/-! ## What is handed over -/

variable {minSuccesses : Nat}

/-- An aggregate has an outcome for each result of its block. -/
theorem successes_add_failures_reduce (key : Key) (b : Block) :
    (Block.reduce runs minSuccesses key b).successes
      + (Block.reduce runs minSuccesses key b).failures.length = b.length :=
  (length_figuresOf_add _).trans (List.length_map _)

/-- The aggregates of an answer are of no more results than there are repetitions. -/
theorem Expected.bounded (hruns : 0 < runs) {c : Call} {answer : Answer}
    (h : Expected runs minSuccesses calls c answer) :
    ∀ x ∈ answer.aggregates, x.runs = runs ∧ x.successes + x.failures.length ≤ x.runs := by
  have hreduce : ∀ key b, b.length ≤ runs →
      (Block.reduce runs minSuccesses key b).runs = runs ∧
        (Block.reduce runs minSuccesses key b).successes
          + (Block.reduce runs minSuccesses key b).failures.length
          ≤ (Block.reduce runs minSuccesses key b).runs := fun key b hb =>
    ⟨rfl, Nat.le_trans (Nat.le_of_eq (successes_add_failures_reduce key b)) hb⟩
  have hshort : ∀ key, (cutAt runs key calls).current.length < runs := fun key =>
    (cutAt_sound hruns key calls).isOpen.short
  cases c with
  | push r =>
      obtain rfl := h
      intro x hx
      rw [Answer.aggregates, Option.mem_toList] at hx
      split at hx
      · obtain rfl := Option.some.inj hx
        refine hreduce _ _ ?_
        rw [List.length_append, List.length_singleton]
        exact hshort r.key
      · exact absurd hx (Option.not_mem_none x)
  | flush =>
      obtain ⟨bs, hbs, rfl⟩ := h
      rw [Answer.aggregates, List.forall_mem_map]
      rintro ⟨key, b⟩ hx
      obtain ⟨rfl, -⟩ := (hbs.mem_iff key b).mp hx
      exact hreduce _ _ (Nat.le_of_lt (hshort key))
  | discard =>
      obtain ⟨bs, hbs, rfl⟩ := h
      exact List.forall_mem_nil _
  | pending =>
      obtain ⟨bs, hbs, rfl⟩ := h
      exact List.forall_mem_nil _

/-! ## Any calls -/

section Calls

variable (runs : RunCount) (minSuccesses : UInt32)

/-- All aggregates that some calls hand over. -/
theorem answers_bounded (calls : List Call)
    (hrep : ∀ r, .push r ∈ calls → r.repetition.toNat + 1 < 2 ^ 32) :
    ∀ x ∈ ((Aggregator.new runs minSuccesses).answers calls).flatMap Answer.aggregates,
      x.runs = runs.val.toNat ∧ x.successes + x.failures.length ≤ x.runs := by
  intro x hx
  obtain ⟨answer, hanswer, hx⟩ := List.mem_flatMap.mp hx
  obtain ⟨i, hi, rfl⟩ := List.getElem_of_mem hanswer
  rw [length_answers] at hi
  -- the answer is the one to the call in its place
  have hcalls : calls = calls.take i ++ calls[i] :: calls.drop (i + 1) := by
    rw [← List.drop_eq_getElem_cons hi, List.take_append_drop]
  have hplace : (calls.take i).length = i := List.length_take_of_le (Nat.le_of_lt hi)
  obtain ⟨answer, hsome, hexpected⟩ :=
    @expected_answers runs minSuccesses (calls.take i) (calls.drop (i + 1)) calls[i] (hcalls ▸ hrep)
  rw [← hcalls, hplace, List.getElem?_eq_getElem (by rwa [length_answers])] at hsome
  rw [Option.some.inj hsome] at hx
  exact hexpected.bounded runs.toNat_pos x hx

/-- **WHAT IS PENDING IS IN ORDER.**  Whatever calls are made of a new aggregator, its
    entries are of different keys; each counts at least one result and fewer than there
    are repetitions, each result as a figure or a failure, and was made of results of
    its key before the last repetition; with one repetition there are none.  So the
    counts of every call stay in 32 bits, and every aggregate that is handed over is of
    no more results than there are repetitions. -/
theorem pending_in_order (calls : List Call)
    (hrep : ∀ r, .push r ∈ calls → r.repetition.toNat + 1 < 2 ^ 32) :
    let n := runs.val.toNat
    let start := Aggregator.new runs minSuccesses
    (start.after calls).Sound n calls
    ∧ (n = 1 → (start.after calls).pending = [])
    ∧ (∀ past c rest, calls = past ++ c :: rest → (start.after past).CountsFit c)
    ∧ ∀ x ∈ (start.answers calls).flatMap Answer.aggregates,
        x.runs = n ∧ x.successes + x.failures.length ≤ x.runs := by
  intro n start
  obtain ⟨bs, hbs⟩ := after_tracks runs minSuccesses calls hrep
  have hsound : (start.after calls).Sound n calls := hbs.sound runs.toNat_pos
  refine ⟨hsound, ?_, ?_, answers_bounded runs minSuccesses calls hrep⟩
  · intro hone
    exact (hone ▸ hsound).pending_eq_nil
  · rintro past c rest rfl
    obtain ⟨bs', hbs'⟩ := after_tracks runs minSuccesses past fun r hr =>
      hrep r (List.mem_append_left _ hr)
    refine hbs'.countsFit runs.toNat_pos runs.val.toNat_lt c ?_
    rintro r rfl
    exact hrep r (List.mem_append_right _ List.mem_cons_self)

end Calls

/-- Three repetitions: a key whose first repetition came twice stays pending, and the
    largest repetition there can be completes the other at once.  With one repetition
    the same calls leave nothing. -/
theorem pending_in_order_three :
    let suite : SuiteName := ⟨"set-ll-1k", by decide⟩
    let variant : VariantName := ⟨"mh-orc", by decide⟩
    let result (threads : ThreadCount) (repetition : UInt32) (ops : UInt64) : TrialResult :=
      ⟨⟨suite, variant, threads, ⟨100, by decide⟩⟩, repetition, "", some 0, .figure ops⟩
    let first : Call := .push (result ⟨1, by decide⟩ 0 30)
    let largest : Call := .push (result ⟨2, by decide⟩ 4294967294 7)
    let calls : List Call := [first, largest, first]
    (∀ r, .push r ∈ calls → r.repetition.toNat + 1 < 2 ^ 32)
    ∧ ((Aggregator.new ⟨3, by decide⟩ 1).after calls).Sound 3 calls
    ∧ ((Aggregator.new ⟨3, by decide⟩ 1).after calls).pending.map (·.seen) = [2]
    ∧ ((Aggregator.new ⟨3, by decide⟩ 1).after [first]).CountsFit largest
    ∧ ((Aggregator.new ⟨1, by decide⟩ 1).after calls).pending = [] := by
  intro suite variant result first largest calls
  have hrep : ∀ r, .push r ∈ calls → r.repetition.toNat + 1 < 2 ^ 32 := by
    intro r hr
    simp only [calls, first, largest, List.mem_cons, Call.push.injEq, List.not_mem_nil, or_false]
      at hr
    rcases hr with rfl | rfl | rfl
    · decide
    · decide
    · decide
  obtain ⟨hsound, -, hcounts, -⟩ := pending_in_order ⟨3, by decide⟩ 1 calls hrep
  obtain ⟨-, hnone, -, -⟩ := pending_in_order ⟨1, by decide⟩ 1 calls hrep
  exact ⟨hrep, hsound, by decide, hcounts [first] largest [first] rfl, hnone rfl⟩

end Aggregator

end BenchSweep
