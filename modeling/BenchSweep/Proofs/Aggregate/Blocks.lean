import BenchSweep.Proofs.Aggregate.Reduction
import Mathlib.Data.List.Induction
import Mathlib.Data.List.Nodup

/-! # Blocks of results

    The reference an aggregator is held against.  The results that are pushed for
    one key are cut, in the order they arrive in, into blocks.  A block is
    completed by the first result of a last or later repetition, or by its
    `runs`-th result; a flush and a discard cut off whatever block is open.  The
    cut of a key (`cutAt`) looks at nothing but the calls that concern the key.

    `Cut.Sound` says what the blocks of a key are: together they are the results
    of the key, each once and in order (`cutAt_sound`). -/

namespace BenchSweep

namespace Aggregator

/-- A call of an aggregator. -/
inductive Call where
  | push (r : TrialResult)
  | flush
  | discard
  | pending
deriving DecidableEq

/-- A result with its place in the sequence of calls. -/
structure Arrival where
  place  : Nat
  result : TrialResult
deriving DecidableEq

/-- Results of one key, in the order of their arrival. -/
abbrev Block := List Arrival

namespace Block

/-- The place a block starts at. -/
def start : Block → Nat
  | []     => 0
  | a :: _ => a.place

/-- The aggregate of a block. -/
def reduce (runs minSuccesses : Nat) (key : Key) (b : Block) : Aggregate :=
  Aggregate.ofOutcomes key runs minSuccesses (b.map (·.result.outcome))

/-- A block that nothing has completed: it has fewer than `runs` results, and none
    of a last or later repetition. -/
structure IsOpen (runs : Nat) (b : Block) : Prop where
  short : b.length < runs
  early : ∀ a ∈ b, a.result.repetition.toNat + 1 < runs

/-- A block whose last result has completed it, and no result before. -/
def IsComplete (runs : Nat) (b : Block) : Prop :=
  ∃ before last, b = before ++ [last] ∧ IsOpen runs before ∧
    (runs ≤ last.result.repetition.toNat + 1 ∨ runs ≤ b.length)

/-- A block that is complete is not empty, and not longer than `runs`. -/
theorem IsComplete.length_le {runs : Nat} {b : Block} (h : IsComplete runs b) :
    b ≠ [] ∧ b.length ≤ runs := by
  obtain ⟨before, last, rfl, hopen, -⟩ := h
  refine ⟨by simp, ?_⟩
  rw [List.length_append, List.length_singleton]
  exact hopen.short

end Block

/-- What has become of a block that is no longer open. -/
inductive Fate where
  | completed
  | flushed
  | discarded
deriving DecidableEq

/-- The results of one key, cut into blocks; the last one may still be open. -/
structure Cut where
  closed  : List (Fate × Block) := []
  current : Block := []
deriving DecidableEq

namespace Cut

/-- The open block, if there is one, is cut off. -/
def close (cut : Cut) (fate : Fate) : Cut :=
  if cut.current = [] then cut else { closed := cut.closed ++ [(fate, cut.current)] }

/-- One more result. -/
def add (cut : Cut) (runs : Nat) (a : Arrival) : Cut :=
  let b := cut.current ++ [a]
  if runs ≤ a.result.repetition.toNat + 1 ∨ runs ≤ b.length then
    { closed := cut.closed ++ [(.completed, b)] }
  else { cut with current := b }

/-- What a call does to the results of a key. -/
def feed (cut : Cut) (runs : Nat) (key : Key) (place : Nat) : Call → Cut
  | .push r  => if r.key = key then cut.add runs ⟨place, r⟩ else cut
  | .flush   => cut.close .flushed
  | .discard => cut.close .discarded
  | .pending => cut

/-- All blocks of a key. -/
def blocks (cut : Cut) : List Block := cut.closed.map (·.2) ++ [cut.current]

/-- The aggregates that come of the blocks: none of those that are discarded. -/
def aggregates (cut : Cut) (runs minSuccesses : Nat) (key : Key) : List Aggregate :=
  cut.closed.filterMap fun (fate, b) =>
    if fate = .discarded then none else some (Block.reduce runs minSuccesses key b)

end Cut

/-- **THE CUT** of a key's results after some calls. -/
def cutAt (runs : Nat) (key : Key) (calls : List Call) : Cut :=
  calls.zipIdx.foldl (fun cut (call, place) => cut.feed runs key place call) {}

/-- The results of a key among some calls. -/
def arrivals (key : Key) (calls : List Call) : Block :=
  calls.zipIdx.filterMap fun (call, place) =>
    match call with
    | .push r => if r.key = key then some ⟨place, r⟩ else none
    | _       => none

theorem cutAt_snoc (runs : Nat) (key : Key) (calls : List Call) (call : Call) :
    cutAt runs key (calls ++ [call])
      = (cutAt runs key calls).feed runs key calls.length call := by
  rw [cutAt, cutAt, List.zipIdx_append, List.foldl_append]
  simp

theorem arrivals_snoc_push (key : Key) (calls : List Call) (r : TrialResult) :
    arrivals key (calls ++ [.push r])
      = arrivals key calls ++ (if r.key = key then [⟨calls.length, r⟩] else []) := by
  rw [arrivals, List.zipIdx_append, List.filterMap_append]
  congr 1
  by_cases h : r.key = key
  · simp [h]
  · simp [h]

theorem arrivals_snoc_other (key : Key) (calls : List Call) {call : Call}
    (h : ∀ r, call ≠ .push r) : arrivals key (calls ++ [call]) = arrivals key calls := by
  rw [arrivals, arrivals, List.zipIdx_append, List.filterMap_append]
  cases call with
  | push r => exact absurd rfl (h r)
  | flush => simp
  | discard => simp
  | pending => simp

/-- The results of a key are those that were pushed for it. -/
theorem mem_arrivals {key : Key} {calls : List Call} {a : Arrival} :
    a ∈ arrivals key calls ↔
      calls[a.place]? = some (.push a.result) ∧ a.result.key = key := by
  rw [arrivals, List.mem_filterMap]
  constructor
  · rintro ⟨⟨call, place⟩, hmem, ha⟩
    cases call with
    | push r =>
        by_cases hkey : r.key = key
        · simp only [if_pos hkey, Option.some.injEq] at ha
          subst ha
          exact ⟨List.mem_zipIdx_iff_getElem?.mp hmem, hkey⟩
        · simp [hkey] at ha
    | flush => exact nomatch ha
    | discard => exact nomatch ha
    | pending => exact nomatch ha
  · rintro ⟨hcall, hkey⟩
    exact ⟨(.push a.result, a.place), List.mem_zipIdx_iff_getElem?.mpr hcall, if_pos hkey⟩

theorem place_lt_of_mem_arrivals {key : Key} {calls : List Call} {a : Arrival}
    (h : a ∈ arrivals key calls) : a.place < calls.length :=
  (List.getElem?_eq_some_iff.mp (mem_arrivals.mp h).1).1

/-- No result is listed twice. -/
theorem nodup_arrivals (key : Key) (calls : List Call) : (arrivals key calls).Nodup := by
  induction calls using List.reverseRecOn with
  | nil => exact List.nodup_nil
  | append_singleton calls call ih =>
      by_cases hpush : ∃ r, call = .push r
      · obtain ⟨r, rfl⟩ := hpush
        rw [arrivals_snoc_push]
        by_cases hkey : r.key = key
        · rw [if_pos hkey]
          refine List.nodup_append.mpr ⟨ih, List.nodup_singleton _, ?_⟩
          rintro a ha a' ha' rfl
          have hplace := place_lt_of_mem_arrivals ha
          rw [List.mem_singleton.mp ha'] at hplace
          exact Nat.lt_irrefl _ hplace
        · rw [if_neg hkey, List.append_nil]
          exact ih
      · rw [arrivals_snoc_other key calls (fun r hr => hpush ⟨r, hr⟩)]
        exact ih

/-! ## What the blocks of a key are -/

/-- The blocks of a key after some calls: in order they are the results of the
    key; the completed ones were complete at their last result and not before,
    and what was cut off had not been completed. -/
structure Cut.Sound (runs : Nat) (key : Key) (calls : List Call) (cut : Cut) : Prop where
  partition : cut.blocks.flatten = arrivals key calls
  completed : ∀ b, (.completed, b) ∈ cut.closed → Block.IsComplete runs b
  cutOff    : ∀ fate b, (fate, b) ∈ cut.closed → fate ≠ .completed →
    b ≠ [] ∧ Block.IsOpen runs b
  isOpen    : Block.IsOpen runs cut.current

namespace Cut.Sound

variable {runs : Nat} {key : Key} {calls : List Call} {cut : Cut}

theorem nil (hruns : 0 < runs) : Cut.Sound runs key [] {} where
  partition := rfl
  completed := fun _ h => nomatch h
  cutOff := fun _ _ h => nomatch h
  isOpen := ⟨hruns, fun _ h => nomatch h⟩

/-- Cutting off the open block leaves the results as they are. -/
theorem close (h : cut.Sound runs key calls) {calls' : List Call} {fate : Fate}
    (hfate : fate ≠ .completed) (hsame : arrivals key calls' = arrivals key calls) :
    (cut.close fate).Sound runs key calls' := by
  have hruns : 0 < runs := Nat.lt_of_le_of_lt (Nat.zero_le _) h.isOpen.short
  rw [Cut.close]
  by_cases hempty : cut.current = []
  · rw [if_pos hempty]
    exact ⟨hsame ▸ h.partition, h.completed, h.cutOff, h.isOpen⟩
  · rw [if_neg hempty]
    refine ⟨?_, ?_, ?_, ⟨hruns, fun _ h => nomatch h⟩⟩
    · rw [hsame, ← h.partition]
      simp [Cut.blocks]
    · intro b hb
      rcases List.mem_append.mp hb with hb | hb
      · exact h.completed b hb
      · obtain ⟨rfl, -⟩ := Prod.mk.inj (List.mem_singleton.mp hb)
        exact absurd rfl hfate
    · intro fate' b hb hfate'
      rcases List.mem_append.mp hb with hb | hb
      · exact h.cutOff fate' b hb hfate'
      · obtain ⟨-, rfl⟩ := Prod.mk.inj (List.mem_singleton.mp hb)
        exact ⟨hempty, h.isOpen⟩

/-- One more result goes to the end of the open block, and may complete it. -/
theorem add (h : cut.Sound runs key calls) {calls' : List Call} {a : Arrival}
    (hmore : arrivals key calls' = arrivals key calls ++ [a]) :
    (cut.add runs a).Sound runs key calls' := by
  have hruns : 0 < runs := Nat.lt_of_le_of_lt (Nat.zero_le _) h.isOpen.short
  have hpartition : (cut.closed.map (·.2)).flatten ++ cut.current ++ [a]
      = arrivals key calls' := by
    rw [hmore, ← h.partition]
    simp [Cut.blocks]
  rw [Cut.add]
  by_cases hcomplete : runs ≤ a.result.repetition.toNat + 1
      ∨ runs ≤ (cut.current ++ [a]).length
  · simp only [if_pos hcomplete]
    refine ⟨?_, ?_, ?_, ⟨hruns, fun _ h => nomatch h⟩⟩
    · rw [← hpartition]
      simp [Cut.blocks]
    · intro b hb
      rcases List.mem_append.mp hb with hb | hb
      · exact h.completed b hb
      · obtain ⟨-, rfl⟩ := Prod.mk.inj (List.mem_singleton.mp hb)
        exact ⟨cut.current, a, rfl, h.isOpen, hcomplete⟩
    · intro fate b hb hfate
      rcases List.mem_append.mp hb with hb | hb
      · exact h.cutOff fate b hb hfate
      · obtain ⟨rfl, -⟩ := Prod.mk.inj (List.mem_singleton.mp hb)
        exact absurd rfl hfate
  · simp only [if_neg hcomplete]
    obtain ⟨hearly, hshort⟩ := not_or.mp hcomplete
    refine ⟨?_, h.completed, h.cutOff, ⟨Nat.lt_of_not_le hshort, ?_⟩⟩
    · rw [← hpartition]
      simp [Cut.blocks]
    · intro a' ha'
      rcases List.mem_append.mp ha' with ha' | ha'
      · exact h.isOpen.early a' ha'
      · rw [List.mem_singleton.mp ha']
        exact Nat.lt_of_not_le hearly

end Cut.Sound

/-- **THE BLOCKS OF A KEY** are its results, cut where the counting says. -/
theorem cutAt_sound {runs : Nat} (hruns : 0 < runs) (key : Key) (calls : List Call) :
    (cutAt runs key calls).Sound runs key calls := by
  induction calls using List.reverseRecOn with
  | nil => exact Cut.Sound.nil hruns
  | append_singleton calls call ih =>
      rw [cutAt_snoc]
      cases call with
      | push r =>
          have harrivals := arrivals_snoc_push key calls r
          by_cases hkey : r.key = key
          · rw [if_pos hkey] at harrivals
            show (if r.key = key then _ else _ : Cut).Sound runs key _
            rw [if_pos hkey]
            exact ih.add harrivals
          · rw [if_neg hkey, List.append_nil] at harrivals
            show (if r.key = key then _ else _ : Cut).Sound runs key _
            rw [if_neg hkey]
            exact ⟨harrivals ▸ ih.partition, ih.completed, ih.cutOff, ih.isOpen⟩
      | flush => exact ih.close (by decide) (arrivals_snoc_other key calls (by simp))
      | discard => exact ih.close (by decide) (arrivals_snoc_other key calls (by simp))
      | pending =>
          have hsame := @arrivals_snoc_other key calls .pending (by simp)
          exact ⟨hsame ▸ ih.partition, ih.completed, ih.cutOff, ih.isOpen⟩

/-! ## Every result in one block -/

/-- What is listed once in all is in one of the lists. -/
theorem countP_mem_of_nodup_flatten {α : Type} [DecidableEq α] (x : α) (bs : List (List α))
    (h : bs.flatten.Nodup) : bs.countP (x ∈ ·) = if x ∈ bs.flatten then 1 else 0 := by
  induction bs with
  | nil => simp
  | cons b bs ih =>
      rw [List.flatten_cons] at h ⊢
      obtain ⟨-, hbs, hdisjoint⟩ := List.nodup_append.mp h
      rw [List.countP_cons, ih hbs]
      by_cases hb : x ∈ b
      · have hrest : x ∉ bs.flatten := fun hx => hdisjoint x hb x hx rfl
        simp [hb, hrest]
      · simp [hb]

/-- A result that was pushed is in one block of its own key and in none of
    another's. -/
theorem countP_blocks_of_push {runs : Nat} (hruns : 0 < runs) (key : Key)
    {calls : List Call} {a : Arrival} (h : calls[a.place]? = some (.push a.result)) :
    (cutAt runs key calls).blocks.countP (a ∈ ·) = if a.result.key = key then 1 else 0 := by
  have hpartition := (cutAt_sound hruns key calls).partition
  rw [countP_mem_of_nodup_flatten a _ (hpartition ▸ nodup_arrivals key calls), hpartition]
  by_cases hkey : a.result.key = key
  · rw [if_pos hkey, if_pos (mem_arrivals.mpr ⟨h, hkey⟩)]
  · rw [if_neg hkey, if_neg (fun hmem => hkey (mem_arrivals.mp hmem).2)]

/-! ## A key is not concerned with the others -/

/-- Whether a call concerns a key: pushing a result for another key does not. -/
def Call.concerns (key : Key) : Call → Bool
  | .push r => decide (r.key = key)
  | _       => true

/-- A cut without the places. -/
def Cut.results (cut : Cut) : List (Fate × List TrialResult) × List TrialResult :=
  (cut.closed.map fun (fate, b) => (fate, b.map (·.result)), cut.current.map (·.result))

namespace Cut

variable {cut cut' : Cut}

theorem close_results (h : cut.results = cut'.results) (fate : Fate) :
    (cut.close fate).results = (cut'.close fate).results := by
  obtain ⟨hclosed, hcurrent⟩ := Prod.mk.inj h
  have hempty : cut.current = [] ↔ cut'.current = [] := by
    rw [← List.map_eq_nil_iff (f := (·.result)), hcurrent, List.map_eq_nil_iff]
  rw [close, close]
  by_cases hnil : cut.current = []
  · rw [if_pos hnil, if_pos (hempty.mp hnil)]
    exact h
  · rw [if_neg hnil, if_neg (fun h' => hnil (hempty.mpr h'))]
    simp only [results, List.map_append, hclosed, List.map_cons, hcurrent]

theorem add_results (h : cut.results = cut'.results) (runs place place' : Nat)
    (r : TrialResult) :
    (cut.add runs ⟨place, r⟩).results = (cut'.add runs ⟨place', r⟩).results := by
  obtain ⟨hclosed, hcurrent⟩ := Prod.mk.inj h
  have hlength : cut.current.length = cut'.current.length := by
    have := congrArg List.length hcurrent
    rwa [List.length_map, List.length_map] at this
  rw [add, add]
  simp only [List.length_append, List.length_singleton, hlength]
  by_cases hcomplete : runs ≤ r.repetition.toNat + 1 ∨ runs ≤ cut'.current.length + 1
  · simp only [if_pos hcomplete, results, List.map_append, hclosed, List.map_cons, hcurrent]
  · simp only [if_neg hcomplete, results, List.map_append, hclosed, List.map_cons, hcurrent]

/-- The place of a call does not matter for what it does. -/
theorem feed_results (h : cut.results = cut'.results) (runs : Nat) (key : Key)
    (place place' : Nat) (call : Call) :
    (cut.feed runs key place call).results = (cut'.feed runs key place' call).results := by
  cases call with
  | push r =>
      by_cases hkey : r.key = key
      · simp only [feed, if_pos hkey]
        exact add_results h runs place place' r
      · simp only [feed, if_neg hkey]
        exact h
  | flush => exact close_results h .flushed
  | discard => exact close_results h .discarded
  | pending => exact h

/-- The aggregates of a key do not depend on the places either. -/
theorem aggregates_congr (h : cut.results = cut'.results) (runs minSuccesses : Nat)
    (key : Key) :
    cut.aggregates runs minSuccesses key = cut'.aggregates runs minSuccesses key := by
  have hresults : ∀ c : Cut, c.aggregates runs minSuccesses key
      = c.results.1.filterMap fun (fate, rs) =>
          if fate = .discarded then none
          else some (Aggregate.ofOutcomes key runs minSuccesses (rs.map (·.outcome))) := by
    intro c
    simp only [aggregates, results, Block.reduce, List.filterMap_map, Function.comp_def,
      List.map_map]
  rw [hresults cut, hresults cut', h]

end Cut

/-- Calls that do not concern a key leave its cut alone. -/
theorem cutAt_filter_results (runs : Nat) (key : Key) (calls : List Call) :
    (cutAt runs key (calls.filter (Call.concerns key))).results
      = (cutAt runs key calls).results := by
  induction calls using List.reverseRecOn with
  | nil => rfl
  | append_singleton calls call ih =>
      rw [List.filter_append, cutAt_snoc]
      cases hconcerns : call.concerns key with
      | true =>
          rw [List.filter_cons_of_pos hconcerns, List.filter_nil, cutAt_snoc]
          exact Cut.feed_results ih runs key _ _ call
      | false =>
          rw [List.filter_cons_of_neg (by simp [hconcerns]), List.filter_nil, List.append_nil, ih]
          cases call with
          | push r =>
              have hkey : ¬ r.key = key := of_decide_eq_false hconcerns
              simp only [Cut.feed, if_neg hkey]
          | flush => exact nomatch hconcerns
          | discard => exact nomatch hconcerns
          | pending => exact nomatch hconcerns

end Aggregator

end BenchSweep
