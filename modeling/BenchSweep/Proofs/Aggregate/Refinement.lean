import BenchSweep.Proofs.Aggregate.Blocks

/-! # The aggregator keeps the open blocks

    An aggregator holds one list of pending configurations for all keys, searches
    it from the front and takes completed entries out of its middle.  Against the
    blocks of every single key that is a matter of bookkeeping: at any time the
    list holds the open blocks of all keys, in the order they were opened in
    (`Tracks`), every call keeps it so and gives the answer that the blocks call
    for (`call_tracks`), and hence so does every sequence of calls. -/

namespace BenchSweep

namespace Aggregator

/-- What an aggregator answers to a call, or that a result's repetition cannot be
    counted up. -/
inductive Answer where
  | pushed (completed : Option Aggregate)
  | flushed (aggregates : List Aggregate)
  | discarded (count : Nat)
  | pending (count : Nat)
  | overflow
deriving DecidableEq

/-- The aggregates an answer hands over. -/
def Answer.aggregates : Answer → List Aggregate
  | .pushed a?  => a?.toList
  | .flushed as => as
  | _           => []

/-- One call. -/
def call (a : Aggregator) : Call → Answer × Aggregator
  | .push r  =>
      match a.push? r with
      | some (a?, a) => (.pushed a?, a)
      | none         => (.overflow, a)
  | .flush   => (.flushed a.flush.1, a.flush.2)
  | .discard => (.discarded a.discard.1, a.discard.2)
  | .pending => (.pending a.pending.length, a)

/-- A result whose repetition can be counted up is taken in. -/
theorem call_push_of_lt {a : Aggregator} {r : TrialResult}
    (hrep : r.repetition.toNat + 1 < 2 ^ 32) :
    a.call (.push r) =
      (.pushed ((absorb a.runs r a.pending).1.map (·.reduce a.runs a.minSuccesses)),
        { a with pending := (absorb a.runs r a.pending).2 }) := by
  rw [call, push?_of_lt hrep]

/-- Any other is not. -/
theorem call_push_of_not_lt {a : Aggregator} {r : TrialResult}
    (hrep : ¬ r.repetition.toNat + 1 < 2 ^ 32) : a.call (.push r) = (.overflow, a) := by
  rw [call, push?, if_neg hrep]

/-- The aggregator after some calls. -/
def after (a : Aggregator) (calls : List Call) : Aggregator :=
  calls.foldl (fun a c => (a.call c).2) a

/-- The answers to some calls. -/
def answers : Aggregator → List Call → List Answer
  | _, []      => []
  | a, c :: cs => (a.call c).1 :: answers (a.call c).2 cs

theorem after_snoc (a : Aggregator) (calls : List Call) (c : Call) :
    a.after (calls ++ [c]) = ((a.after calls).call c).2 := by
  rw [after, List.foldl_append]
  rfl

theorem answers_append (a : Aggregator) (calls calls' : List Call) :
    a.answers (calls ++ calls') = a.answers calls ++ (a.after calls).answers calls' := by
  induction calls generalizing a with
  | nil => rfl
  | cons c cs ih =>
      show (a.call c).1 :: ((a.call c).2).answers (cs ++ calls') = _
      rw [ih]
      rfl

@[simp] theorem length_answers (a : Aggregator) (calls : List Call) :
    (a.answers calls).length = calls.length := by
  induction calls generalizing a with
  | nil => rfl
  | cons c cs ih => exact congrArg (· + 1) (ih _)

/-- The aggregates that are handed over for a key. -/
def emitted (key : Key) (answers : List Answer) : List Aggregate :=
  (answers.flatMap Answer.aggregates).filter (·.key = key)

/-! ## The open blocks of all keys -/

/-- The open blocks of all keys after some calls, each under its key and the
    oldest first. -/
structure OpenBlocks (runs : Nat) (calls : List Call) (bs : List (Key × Block)) : Prop where
  mem_iff   : ∀ key b, (key, b) ∈ bs ↔ b = (cutAt runs key calls).current ∧ b ≠ []
  byArrival : bs.Pairwise fun x y => Block.start x.2 < Block.start y.2

/-- **THE ANSWER** that the blocks call for: a push gives the aggregate of the
    block it completes, if it completes one; a flush those of all open blocks in
    the order of their starts; a discard and a question their number. -/
def Expected (runs minSuccesses : Nat) (past : List Call) : Call → Answer → Prop
  | .push r, answer =>
      let b := (cutAt runs r.key past).current ++ [⟨past.length, r⟩]
      answer = .pushed (if runs ≤ r.repetition.toNat + 1 ∨ runs ≤ b.length
        then some (Block.reduce runs minSuccesses r.key b) else none)
  | .flush, answer => ∃ bs, OpenBlocks runs past bs ∧
      answer = .flushed (bs.map fun (key, b) => Block.reduce runs minSuccesses key b)
  | .discard, answer => ∃ bs, OpenBlocks runs past bs ∧ answer = .discarded bs.length
  | .pending, answer => ∃ bs, OpenBlocks runs past bs ∧ answer = .pending bs.length

theorem place_lt_of_mem_current {runs : Nat} (hruns : 0 < runs) {key : Key}
    {calls : List Call} {a : Arrival} (h : a ∈ (cutAt runs key calls).current) :
    a.place < calls.length := by
  have harrived : a ∈ arrivals key calls := by
    rw [← (cutAt_sound hruns key calls).partition]
    exact List.mem_flatten.mpr ⟨_, List.mem_append_right _ List.mem_cons_self, h⟩
  exact place_lt_of_mem_arrivals harrived

theorem Block.start_append {b : Block} (h : b ≠ []) (b' : Block) :
    Block.start (b ++ b') = Block.start b := by
  cases b with
  | nil => exact absurd rfl h
  | cons a b => rfl

/-- Another key's result leaves a cut alone. -/
theorem current_push_of_ne {runs : Nat} {key : Key} {r : TrialResult} (h : r.key ≠ key)
    (calls : List Call) :
    (cutAt runs key (calls ++ [.push r])).current = (cutAt runs key calls).current := by
  rw [cutAt_snoc]
  simp only [Cut.feed, if_neg h]

/-- What is open of a key after a result for it. -/
theorem current_push (runs : Nat) (r : TrialResult) (calls : List Call) :
    (cutAt runs r.key (calls ++ [.push r])).current =
      let b := (cutAt runs r.key calls).current ++ [⟨calls.length, r⟩]
      if runs ≤ r.repetition.toNat + 1 ∨ runs ≤ b.length then [] else b := by
  rw [cutAt_snoc]
  simp only [Cut.feed, if_true, Cut.add]
  split
  · rfl
  · rfl

namespace OpenBlocks

variable {runs : Nat} {calls : List Call} {bs : List (Key × Block)}

theorem nil : OpenBlocks runs [] [] where
  mem_iff := fun _ _ => ⟨fun h => absurd h List.not_mem_nil, fun ⟨h, hne⟩ => absurd h hne⟩
  byArrival := List.Pairwise.nil

/-- The open blocks can be listed in one way only, so what they call for is one
    answer. -/
theorem unique {bs' : List (Key × Block)} (h : OpenBlocks runs calls bs)
    (h' : OpenBlocks runs calls bs') : bs = bs' := by
  have hnodup : ∀ {bs : List (Key × Block)}, OpenBlocks runs calls bs → bs.Nodup := by
    intro bs hbs
    refine hbs.byArrival.imp ?_
    rintro x _ hlt rfl
    exact Nat.lt_irrefl _ hlt
  have hperm : bs.Perm bs' := by
    refine (List.perm_ext_iff_of_nodup (hnodup h) (hnodup h')).mpr ?_
    rintro ⟨key, b⟩
    exact (h.mem_iff key b).trans (h'.mem_iff key b).symm
  refine hperm.eq_of_pairwise ?_ h.byArrival h'.byArrival
  intro x y _ _ hlt hgt
  exact absurd hgt (Nat.lt_asymm hlt)

/-- A key has one open block at most, and what stands around it is of other keys. -/
theorem split (h : OpenBlocks runs calls bs) {key : Key}
    (hopen : (cutAt runs key calls).current ≠ []) :
    ∃ l l', bs = l ++ (key, (cutAt runs key calls).current) :: l' ∧
      (∀ x ∈ l, x.1 ≠ key) ∧ ∀ x ∈ l', x.1 ≠ key := by
  obtain ⟨l, l', rfl⟩ := List.append_of_mem ((h.mem_iff key _).mpr ⟨rfl, hopen⟩)
  obtain ⟨-, hright, hleft⟩ := List.pairwise_append.mp h.byArrival
  have hsame : ∀ b, (key, b) ∈ l ++ (key, (cutAt runs key calls).current) :: l' →
      b = (cutAt runs key calls).current := fun b hb => ((h.mem_iff key b).mp hb).1
  refine ⟨l, l', rfl, ?_, ?_⟩
  · rintro ⟨key', b⟩ hx rfl
    have hb := hsame b (List.mem_append_left _ hx)
    have hlt := hleft _ hx _ List.mem_cons_self
    rw [hb] at hlt
    exact Nat.lt_irrefl _ hlt
  · rintro ⟨key', b⟩ hx rfl
    have hb := hsame b (List.mem_append_right _ (List.mem_cons_of_mem _ hx))
    have hlt := (List.pairwise_cons.mp hright).1 _ hx
    rw [hb] at hlt
    exact Nat.lt_irrefl _ hlt

/-- The open blocks of a key are the one that its cut has. -/
theorem filter_key (h : OpenBlocks runs calls bs) (key : Key) :
    bs.filter (·.1 = key) = if (cutAt runs key calls).current = [] then []
      else [(key, (cutAt runs key calls).current)] := by
  by_cases hopen : (cutAt runs key calls).current = []
  · rw [if_pos hopen, List.filter_eq_nil_iff]
    rintro ⟨key', b⟩ hx hkey
    obtain rfl := of_decide_eq_true hkey
    obtain ⟨rfl, hne⟩ := (h.mem_iff _ b).mp hx
    exact hne hopen
  · obtain ⟨l, l', hbs, hl, hl'⟩ := h.split hopen
    rw [if_neg hopen, hbs, List.filter_append, List.filter_cons_of_pos (by simp),
      List.filter_eq_nil_iff.mpr (by simpa using hl),
      List.filter_eq_nil_iff.mpr (by simpa using hl')]
    rfl

/-- Nothing stays open when the open blocks of all keys are cut off. -/
theorem close {call : Call} {fate : Fate}
    (hclose : ∀ key, (cutAt runs key (calls ++ [call])) = (cutAt runs key calls).close fate) :
    OpenBlocks runs (calls ++ [call]) [] where
  mem_iff := by
    intro key b
    have hcurrent : (cutAt runs key (calls ++ [call])).current = [] := by
      rw [hclose, Cut.close]
      split
      · assumption
      · rfl
    rw [hcurrent]
    exact ⟨fun h => absurd h List.not_mem_nil, fun h => absurd h.1 h.2⟩
  byArrival := List.Pairwise.nil

/-- The first result of a block that it does not complete opens the block behind
    all others. -/
theorem opened (hruns : 0 < runs) (h : OpenBlocks runs calls bs) {r : TrialResult}
    (hnone : (cutAt runs r.key calls).current = [])
    (hstill : (cutAt runs r.key (calls ++ [.push r])).current = [⟨calls.length, r⟩]) :
    OpenBlocks runs (calls ++ [.push r]) (bs ++ [(r.key, [⟨calls.length, r⟩])]) where
  mem_iff := by
    intro key b
    rw [List.mem_append, List.mem_singleton, h.mem_iff]
    by_cases hkey : r.key = key
    · subst hkey
      rw [hnone, hstill]
      constructor
      · rintro (⟨rfl, hne⟩ | heq)
        · exact absurd rfl hne
        · obtain ⟨-, rfl⟩ := Prod.mk.inj heq
          exact ⟨rfl, by simp⟩
      · rintro ⟨rfl, -⟩
        exact Or.inr rfl
    · rw [current_push_of_ne hkey]
      constructor
      · rintro (hold | heq)
        · exact hold
        · exact absurd (Prod.mk.inj heq).1.symm hkey
      · exact Or.inl
  byArrival := by
    refine List.pairwise_append.mpr ⟨h.byArrival, List.pairwise_singleton _ _, ?_⟩
    rintro ⟨key, b⟩ hx y hy
    rw [List.mem_singleton.mp hy]
    obtain ⟨rfl, hne⟩ := (h.mem_iff key b).mp hx
    obtain ⟨a, b', hb⟩ := List.exists_cons_of_ne_nil hne
    show Block.start (cutAt runs key calls).current < calls.length
    rw [hb]
    exact place_lt_of_mem_current hruns (hb ▸ List.mem_cons_self)

/-- A result that is its block's first and last leaves no trace. -/
theorem unopened (h : OpenBlocks runs calls bs) {r : TrialResult}
    (hnone : (cutAt runs r.key calls).current = [])
    (hclosed : (cutAt runs r.key (calls ++ [.push r])).current = []) :
    OpenBlocks runs (calls ++ [.push r]) bs where
  mem_iff := by
    intro key b
    rw [h.mem_iff]
    by_cases hkey : r.key = key
    · subst hkey
      rw [hnone, hclosed]
    · rw [current_push_of_ne hkey]
  byArrival := h.byArrival

/-- A result that completes a block takes it out. -/
theorem completed {l l' : List (Key × Block)} {b₀ : Block} {r : TrialResult}
    (h : OpenBlocks runs calls (l ++ (r.key, b₀) :: l'))
    (hl : ∀ x ∈ l, x.1 ≠ r.key) (hl' : ∀ x ∈ l', x.1 ≠ r.key)
    (hclosed : (cutAt runs r.key (calls ++ [.push r])).current = []) :
    OpenBlocks runs (calls ++ [.push r]) (l ++ l') where
  mem_iff := by
    intro key b
    by_cases hkey : r.key = key
    · subst hkey
      rw [hclosed]
      constructor
      · intro hmem
        rcases List.mem_append.mp hmem with hmem | hmem
        · exact absurd rfl (hl _ hmem)
        · exact absurd rfl (hl' _ hmem)
      · rintro ⟨rfl, hne⟩
        exact absurd rfl hne
    · rw [current_push_of_ne hkey, ← h.mem_iff]
      simp [Ne.symm hkey]
  byArrival := h.byArrival.sublist
    ((List.Sublist.refl l).append (List.sublist_cons_self _ l'))

/-- A result that does not complete its block makes it longer, where it stands. -/
theorem extended {l l' : List (Key × Block)} {b₀ : Block} {r : TrialResult}
    (h : OpenBlocks runs calls (l ++ (r.key, b₀) :: l'))
    (hl : ∀ x ∈ l, x.1 ≠ r.key) (hl' : ∀ x ∈ l', x.1 ≠ r.key)
    (hstill : (cutAt runs r.key (calls ++ [.push r])).current = b₀ ++ [⟨calls.length, r⟩]) :
    OpenBlocks runs (calls ++ [.push r])
      (l ++ (r.key, b₀ ++ [⟨calls.length, r⟩]) :: l') where
  mem_iff := by
    intro key b
    by_cases hkey : r.key = key
    · subst hkey
      rw [hstill]
      constructor
      · intro hmem
        rcases List.mem_append.mp hmem with hmem | hmem
        · exact absurd rfl (hl _ hmem)
        · rcases List.mem_cons.mp hmem with heq | hmem
          · obtain ⟨-, rfl⟩ := Prod.mk.inj heq
            exact ⟨rfl, by simp⟩
          · exact absurd rfl (hl' _ hmem)
      · rintro ⟨rfl, -⟩
        exact List.mem_append_right _ List.mem_cons_self
    · rw [current_push_of_ne hkey, ← h.mem_iff]
      simp [Ne.symm hkey]
  byArrival := by
    have hne : b₀ ≠ [] :=
      ((h.mem_iff r.key b₀).mp (List.mem_append_right _ List.mem_cons_self)).2
    have hstart := Block.start_append hne [⟨calls.length, r⟩]
    obtain ⟨hleft, hright, hacross⟩ := List.pairwise_append.mp h.byArrival
    obtain ⟨hhead, htail⟩ := List.pairwise_cons.mp hright
    refine List.pairwise_append.mpr ⟨hleft, List.pairwise_cons.mpr ⟨?_, htail⟩, ?_⟩
    · intro y hy
      rw [hstart]
      exact hhead y hy
    · intro x hx y hy
      rcases List.mem_cons.mp hy with rfl | hy
      · rw [hstart]
        exact hacross x hx _ List.mem_cons_self
      · exact hacross x hx y (List.mem_cons_of_mem _ hy)

end OpenBlocks

/-! ## The simulation -/

variable {runs : Nat} {r : TrialResult}

/-- The entry of an open block. -/
def entry (x : Key × Block) : Pending :=
  Pending.ofOutcomes x.1 (x.2.map (·.result.outcome))

/-- What an entry is reduced to is the aggregate of its block. -/
theorem reduce_entry (runs minSuccesses : Nat) (x : Key × Block) :
    (entry x).reduce runs minSuccesses = Block.reduce runs minSuccesses x.1 x.2 :=
  Pending.reduce_ofOutcomes ..

/-- The entry of a block that grows by a result. -/
theorem add_entry (key : Key) (b : Block) (place : Nat) (r : TrialResult) :
    (entry (key, b)).add r.outcome = entry (key, b ++ [⟨place, r⟩]) := by
  rw [entry, entry, Pending.add_ofOutcomes, List.map_append]
  rfl

theorem seen_entry (x : Key × Block) : (entry x).seen = x.2.length := by
  simp [entry]

variable {calls : List Call} {bs : List (Key × Block)}

/-- **ONE RESULT** among the entries of the open blocks: the one of its key grows
    by it, and is taken out if that completes it. -/
theorem absorb_entries (hruns : 0 < runs) (h : OpenBlocks runs calls bs) :
    let b := (cutAt runs r.key calls).current ++ [⟨calls.length, r⟩]
    ∃ bs', OpenBlocks runs (calls ++ [.push r]) bs' ∧
      absorb runs r (bs.map entry) =
        (if runs ≤ r.repetition.toNat + 1 ∨ runs ≤ b.length then some (entry (r.key, b))
          else none, bs'.map entry) := by
  intro b
  have hcurrent : (cutAt runs r.key (calls ++ [.push r])).current
      = if runs ≤ r.repetition.toNat + 1 ∨ runs ≤ b.length then [] else b :=
    current_push runs r calls
  have hcompletes : completes runs r.repetition (entry (r.key, b)) = true ↔
      runs ≤ r.repetition.toNat + 1 ∨ runs ≤ b.length := by
    rw [completes_iff, seen_entry]
  by_cases hnone : (cutAt runs r.key calls).current = []
  · -- no block of the key is open: the result starts one
    have hb : b = [⟨calls.length, r⟩] := by
      show (cutAt runs r.key calls).current ++ [_] = _
      rw [hnone, List.nil_append]
    have hothers : ∀ p ∈ bs.map entry, p.key ≠ r.key := by
      intro p hp hkey
      obtain ⟨⟨key, b'⟩, hx, rfl⟩ := List.mem_map.mp hp
      obtain ⟨rfl, hne⟩ := (h.mem_iff key b').mp hx
      exact hne ((show key = r.key from hkey) ▸ hnone)
    have hentry : entry (r.key, b) = Pending.ofOutcomes r.key [r.outcome] := by rw [hb]; rfl
    rw [absorb_of_forall_ne hothers, ← hentry]
    by_cases hcomplete : runs ≤ r.repetition.toNat + 1 ∨ runs ≤ b.length
    · rw [if_pos hcomplete] at hcurrent
      refine ⟨bs, h.unopened hnone hcurrent, ?_⟩
      rw [if_pos (hcompletes.mpr hcomplete), if_pos hcomplete]
    · rw [if_neg hcomplete, hb] at hcurrent
      refine ⟨_, h.opened hruns hnone hcurrent, ?_⟩
      rw [if_neg (fun hc => hcomplete (hcompletes.mp hc)), if_neg hcomplete, List.map_append, hb]
      rfl
  · -- the open block of the key stands somewhere in the list
    obtain ⟨l, l', hbs, hl, hl'⟩ := h.split hnone
    rw [hbs] at h ⊢
    have hleft : ∀ q ∈ l.map entry, q.key ≠ r.key := by
      intro q hq
      obtain ⟨x, hx, rfl⟩ := List.mem_map.mp hq
      exact hl x hx
    rw [List.map_append, List.map_cons, absorb_of_split hleft rfl, add_entry r.key _ calls.length r]
    by_cases hcomplete : runs ≤ r.repetition.toNat + 1 ∨ runs ≤ b.length
    · rw [if_pos hcomplete] at hcurrent
      refine ⟨_, h.completed hl hl' hcurrent, ?_⟩
      rw [if_pos (hcompletes.mpr hcomplete), if_pos hcomplete, List.map_append]
    · rw [if_neg hcomplete] at hcurrent
      refine ⟨_, h.extended hl hl' hcurrent, ?_⟩
      rw [if_neg (fun hc => hcomplete (hcompletes.mp hc)), if_neg hcomplete, List.map_append,
        List.map_cons]

/-- An aggregator that holds the open blocks, oldest first. -/
structure Tracks (runs minSuccesses : Nat) (calls : List Call) (a : Aggregator)
    (bs : List (Key × Block)) : Prop where
  runs_eq         : a.runs = runs
  minSuccesses_eq : a.minSuccesses = minSuccesses
  blocks          : OpenBlocks runs calls bs
  pending_eq      : a.pending = bs.map entry

variable {minSuccesses : Nat} {a : Aggregator}

/-- A call that opens and closes nothing but all blocks at once. -/
theorem cutAt_snoc_flush (key : Key) :
    cutAt runs key (calls ++ [.flush]) = (cutAt runs key calls).close .flushed :=
  cutAt_snoc ..

theorem cutAt_snoc_discard (key : Key) :
    cutAt runs key (calls ++ [.discard]) = (cutAt runs key calls).close .discarded :=
  cutAt_snoc ..

theorem cutAt_snoc_pending (key : Key) :
    cutAt runs key (calls ++ [.pending]) = cutAt runs key calls :=
  cutAt_snoc ..

/-- **ONE CALL** is answered as the blocks call for, and keeps the aggregator in
    step with them. -/
theorem call_tracks (hruns : 0 < runs) (h : Tracks runs minSuccesses calls a bs) (c : Call)
    (hrep : ∀ r, c = .push r → r.repetition.toNat + 1 < 2 ^ 32) :
    Expected runs minSuccesses calls c (a.call c).1 ∧
      ∃ bs', Tracks runs minSuccesses (calls ++ [c]) (a.call c).2 bs' := by
  obtain ⟨rfl, rfl, hblocks, hpending⟩ := h
  have hreduce : (a.pending.map (·.reduce a.runs a.minSuccesses))
      = bs.map fun (key, b) => Block.reduce a.runs a.minSuccesses key b := by
    rw [hpending, List.map_map]
    exact List.map_congr_left fun x _ => reduce_entry _ _ x
  cases c with
  | push r =>
      obtain ⟨bs', hblocks', habsorb⟩ := absorb_entries (r := r) hruns hblocks
      rw [← hpending] at habsorb
      rw [call_push_of_lt (hrep r rfl)]
      refine ⟨?_, bs', rfl, rfl, hblocks', congrArg Prod.snd habsorb⟩
      show Answer.pushed ((absorb a.runs r a.pending).1.map _) = _
      rw [habsorb]
      congr 1
      split
      · exact congrArg some (reduce_entry _ _ _)
      · rfl
  | flush =>
      refine ⟨⟨bs, hblocks, congrArg Answer.flushed hreduce⟩, [], rfl, rfl, ?_, rfl⟩
      exact OpenBlocks.close cutAt_snoc_flush
  | discard =>
      refine ⟨⟨bs, hblocks, ?_⟩, [], rfl, rfl, OpenBlocks.close cutAt_snoc_discard, rfl⟩
      show Answer.discarded a.pending.length = _
      rw [hpending, List.length_map]
  | pending =>
      refine ⟨⟨bs, hblocks, ?_⟩, bs, rfl, rfl, ⟨?_, hblocks.byArrival⟩, hpending⟩
      · show Answer.pending a.pending.length = _
        rw [hpending, List.length_map]
      · intro key b
        rw [cutAt_snoc_pending]
        exact hblocks.mem_iff key b

/-- **ANY CALLS** leave the aggregator in step with the blocks. -/
theorem after_tracks (runs : RunCount) (minSuccesses : UInt32) (calls : List Call)
    (hrep : ∀ r, .push r ∈ calls → r.repetition.toNat + 1 < 2 ^ 32) :
    ∃ bs, Tracks runs.val.toNat (max minSuccesses.toNat 1) calls
      ((Aggregator.new runs minSuccesses).after calls) bs := by
  induction calls using List.reverseRecOn with
  | nil => exact ⟨[], rfl, rfl, OpenBlocks.nil, rfl⟩
  | append_singleton calls c ih =>
      obtain ⟨bs, hbs⟩ := ih fun r hr => hrep r (List.mem_append_left _ hr)
      rw [after_snoc]
      refine (call_tracks runs.toNat_pos hbs c ?_).2
      rintro r rfl
      exact hrep r (List.mem_append_right _ List.mem_cons_self)

/-- The answer to each of some calls. -/
theorem expected_answers (runs : RunCount) (minSuccesses : UInt32) {past rest : List Call}
    {c : Call} (hrep : ∀ r, .push r ∈ past ++ c :: rest → r.repetition.toNat + 1 < 2 ^ 32) :
    ∃ answer, ((Aggregator.new runs minSuccesses).answers (past ++ c :: rest))[past.length]?
        = some answer ∧
      Expected runs.val.toNat (max minSuccesses.toNat 1) past c answer := by
  obtain ⟨bs, hbs⟩ := after_tracks runs minSuccesses past fun r hr =>
    hrep r (List.mem_append_left _ hr)
  have hanswer := (call_tracks runs.toNat_pos hbs c (by
    rintro r rfl
    exact hrep r (List.mem_append_right _ List.mem_cons_self))).1
  refine ⟨_, ?_, hanswer⟩
  rw [answers_append, List.getElem?_append_right (by simp), length_answers, Nat.sub_self]
  rfl

/-! ## What is handed over for a key -/

/-- The aggregate of a block is for its key. -/
theorem key_reduce (runs minSuccesses : Nat) (key : Key) (b : Block) :
    (Block.reduce runs minSuccesses key b).key = key := rfl

theorem aggregates_append (closed closed' : List (Fate × Block)) (current current' : Block)
    (key : Key) :
    Cut.aggregates { closed := closed ++ closed', current } runs minSuccesses key
      = Cut.aggregates { closed, current := current' } runs minSuccesses key
        ++ Cut.aggregates { closed := closed' } runs minSuccesses key :=
  List.filterMap_append

/-- The open blocks' aggregates for a key: there is one if its cut is open. -/
theorem filter_map_reduce (h : OpenBlocks runs calls bs) (key : Key) :
    (bs.map fun (key, b) => Block.reduce runs minSuccesses key b).filter (·.key = key)
      = if (cutAt runs key calls).current = [] then []
        else [Block.reduce runs minSuccesses key (cutAt runs key calls).current] := by
  rw [List.filter_map]
  show (bs.filter (·.1 = key)).map _ = _
  rw [h.filter_key]
  split
  · rfl
  · rfl

/-- **ONE ANSWER** hands over for a key what the call makes of its blocks. -/
theorem aggregates_snoc {c : Call} {answer : Answer}
    (h : Expected runs minSuccesses calls c answer) (key : Key) :
    (cutAt runs key (calls ++ [c])).aggregates runs minSuccesses key
      = (cutAt runs key calls).aggregates runs minSuccesses key
        ++ answer.aggregates.filter (·.key = key) := by
  rw [cutAt_snoc]
  cases c with
  | push r =>
      obtain rfl := h
      by_cases hkey : r.key = key
      · subst hkey
        simp only [Cut.feed, if_true, Cut.add, Answer.aggregates]
        generalize (cutAt runs r.key calls).current ++ ([⟨calls.length, r⟩] : Block) = b
        by_cases hcomplete : runs ≤ r.repetition.toNat + 1 ∨ runs ≤ b.length
        · simp only [if_pos hcomplete, Option.toList_some]
          rw [aggregates_append _ _ _ (cutAt runs r.key calls).current]
          simp [Cut.aggregates, key_reduce]
        · simp [if_neg hcomplete, Cut.aggregates]
      · simp only [Cut.feed, if_neg hkey, Answer.aggregates]
        rw [List.filter_eq_nil_iff.mpr, List.append_nil]
        intro a ha
        split at ha
        · obtain rfl := List.mem_singleton.mp ha
          exact fun hsame => hkey (of_decide_eq_true hsame)
        · exact absurd ha List.not_mem_nil
  | flush =>
      obtain ⟨bs, hbs, rfl⟩ := h
      show ((cutAt runs key calls).close .flushed).aggregates runs minSuccesses key = _
      simp only [Answer.aggregates]
      rw [filter_map_reduce hbs, Cut.close]
      split
      · rw [List.append_nil]
      · rw [aggregates_append _ _ _ (cutAt runs key calls).current]
        rfl
  | discard =>
      obtain ⟨bs, hbs, rfl⟩ := h
      show ((cutAt runs key calls).close .discarded).aggregates runs minSuccesses key = _
      rw [Cut.close]
      split
      · exact (List.append_nil _).symm
      · rw [aggregates_append _ _ _ (cutAt runs key calls).current]
        rfl
  | pending =>
      obtain ⟨bs, hbs, rfl⟩ := h
      exact (List.append_nil _).symm

/-- **ALL ANSWERS** hand over for a key the aggregates of its blocks. -/
theorem emitted_answers (runs : RunCount) (minSuccesses : UInt32) (key : Key)
    (calls : List Call) (hrep : ∀ r, .push r ∈ calls → r.repetition.toNat + 1 < 2 ^ 32) :
    emitted key ((Aggregator.new runs minSuccesses).answers calls)
      = (cutAt runs.val.toNat key calls).aggregates runs.val.toNat
          (max minSuccesses.toNat 1) key := by
  induction calls using List.reverseRecOn with
  | nil => rfl
  | append_singleton calls c ih =>
      have hrep' : ∀ r, .push r ∈ calls → r.repetition.toNat + 1 < 2 ^ 32 :=
        fun r hr => hrep r (List.mem_append_left _ hr)
      obtain ⟨bs, hbs⟩ := after_tracks runs minSuccesses calls hrep'
      have hanswer := (call_tracks runs.toNat_pos hbs c (by
        rintro r rfl
        exact hrep r (List.mem_append_right _ List.mem_cons_self))).1
      rw [aggregates_snoc hanswer, ← ih hrep', answers_append]
      simp [emitted, answers]

/-- **THE AGGREGATOR REFINES THE BLOCKS.**  Whatever calls are made, each answer is
    the one that the blocks of the calls before it call for; what is handed over
    for a key are the aggregates of the key's own blocks, and would be the same
    without the results of other keys; and every result that was pushed is in one
    block of its key. -/
theorem answers_refine_blocks (runs : RunCount) (minSuccesses : UInt32) (calls : List Call)
    (hrep : ∀ r, .push r ∈ calls → r.repetition.toNat + 1 < 2 ^ 32) :
    let answersTo := (Aggregator.new runs minSuccesses).answers
    let n := runs.val.toNat
    let least := max minSuccesses.toNat 1
    (∀ past c rest, calls = past ++ c :: rest → ∃ answer,
      (answersTo calls)[past.length]? = some answer ∧ Expected n least past c answer) ∧
    (∀ key, (cutAt n key calls).Sound n key calls ∧
      emitted key (answersTo calls) = (cutAt n key calls).aggregates n least key ∧
      emitted key (answersTo (calls.filter (Call.concerns key)))
        = emitted key (answersTo calls)) ∧
    ∀ place r, calls[place]? = some (.push r) → ∀ key,
      (cutAt n key calls).blocks.countP (⟨place, r⟩ ∈ ·) = if r.key = key then 1 else 0 := by
  intro answersTo n least
  refine ⟨?_, ?_, ?_⟩
  · rintro past c rest rfl
    exact expected_answers runs minSuccesses hrep
  · intro key
    have hemitted := emitted_answers runs minSuccesses key calls hrep
    refine ⟨cutAt_sound runs.toNat_pos key calls, hemitted, ?_⟩
    rw [hemitted, emitted_answers runs minSuccesses key (calls.filter (Call.concerns key))
      fun r hr => hrep r (List.mem_filter.mp hr).1]
    exact Cut.aggregates_congr (cutAt_filter_results n key calls) n least key
  · intro place r hpush key
    exact countP_blocks_of_push runs.toNat_pos key (a := ⟨place, r⟩) hpush

/-- Two keys side by side: the second result of the one completes its block, and
    the other's is left to the flush. -/
theorem answers_two_keys :
    let variant : VariantName := ⟨"mh-orc", by decide⟩
    let suite : SuiteName := ⟨"set-ll-1k", by decide⟩
    let result (threads : ThreadCount) (repetition : UInt32) (ops : UInt64) : TrialResult :=
      ⟨⟨suite, variant, threads, ⟨100, by decide⟩⟩, repetition, "", some 0, .figure ops⟩
    let one := result ⟨1, by decide⟩
    let two := result ⟨2, by decide⟩
    let calls : List Call := [.push (one 0 30), .push (two 0 7), .push (one 1 10), .flush]
    (∀ r, .push r ∈ calls → r.repetition.toNat + 1 < 2 ^ 32) ∧
    (∃ answer, ((Aggregator.new ⟨2, by decide⟩ 1).answers calls)[2]? = some answer ∧
      Expected 2 1 [.push (one 0 30), .push (two 0 7)] (.push (one 1 10)) answer) ∧
    (cutAt 2 (two 0 7).key calls).blocks.countP (⟨1, two 0 7⟩ ∈ ·) = 1 := by
  intro variant suite result one two calls
  have hrep : ∀ r, .push r ∈ calls → r.repetition.toNat + 1 < 2 ^ 32 := by
    intro r hr
    simp only [calls, List.mem_cons, Call.push.injEq, reduceCtorEq, List.not_mem_nil, or_false]
      at hr
    rcases hr with rfl | rfl | rfl
    · decide
    · decide
    · decide
  obtain ⟨hanswers, -, honce⟩ := answers_refine_blocks ⟨2, by decide⟩ 1 calls hrep
  refine ⟨hrep, hanswers [.push (one 0 30), .push (two 0 7)] _ [.flush] rfl, ?_⟩
  exact (honce 1 (two 0 7) rfl (two 0 7).key).trans (if_pos rfl)

end Aggregator

end BenchSweep
