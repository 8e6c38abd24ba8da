import BenchSweep.Proofs.Sweep.Product
import Mathlib.Tactic.Ring

/-! # Every walk along a sweep is a walk along a list

    A walk along a sweep asks a cursor for its next trial, for one further on or
    for several; it copies the cursor, goes back to a copy or starts over.  The
    same walk can be made along a list, from which trials are taken off the
    front.

    * **`Cursor.Exact`** — a cursor is within its sweep, what it decodes is
      there, and what it has still to hand out is a given list;
    * **ONE STEP KEEPS IT** (`Walk.Alike.step`), so whole walks do
      (`Walk.Alike.run`), and both walks have the same answers;
    * **`walk_eq_list_walk`** — so it is for the nested product of an accepted
      suite over accepted dimensions, if its trials can be counted. -/

namespace BenchSweep

/-! ## Walks -/

/-- What trials are taken from, one after the other. -/
structure Supply (σ : Type) where
  first : σ
  next  : σ → Option Trial × σ
  nth   : σ → Nat → Option Trial × σ
  take  : σ → Nat → List Trial × σ
  left  : σ → Nat

namespace Supply

/-- The cursors along a sweep, from a first one on. -/
def ofCursor (first : Cursor) : Supply Cursor :=
  { first
    next := Cursor.next
    nth := Cursor.nth
    take := Cursor.take
    left := Cursor.remaining }

/-- The trials of a list, taken off its front. -/
def ofList (trials : List Trial) : Supply (List Trial) :=
  { first := trials
    next := fun rest => (rest.head?, rest.tail)
    nth := fun rest n => (rest[n]?, rest.drop (n + 1))
    take := fun rest n => (rest.take n, rest.drop n)
    left := List.length }

end Supply

/-- What a walk does next. -/
inductive Request where
  | next
  | nth (n : Nat)
  | take (n : Nat)
  | copy
  | restore (i : Nat)
  | restart
deriving DecidableEq

/-- Where a walk stands, and the places it has copied on its way. -/
structure Walk (σ : Type) where
  current : σ
  copies  : List σ

namespace Walk

variable {σ : Type}

/-- A walk before its first request. -/
def start (p : Supply σ) : Walk σ := ⟨p.first, []⟩

/-- The trials handed out on a request, and the walk after it.  A copy that has
    not been made is not gone back to. -/
def step (p : Supply σ) (w : Walk σ) : Request → List Trial × Walk σ
  | .next      => ((p.next w.current).1.toList, { w with current := (p.next w.current).2 })
  | .nth n     => ((p.nth w.current n).1.toList, { w with current := (p.nth w.current n).2 })
  | .take n    => ((p.take w.current n).1, { w with current := (p.take w.current n).2 })
  | .copy      => ([], { w with copies := w.copies ++ [w.current] })
  | .restore i => ([], { w with current := w.copies[i]?.getD w.current })
  | .restart   => ([], { w with current := p.first })

/-- The answers to requests, and the walk after them.  An answer tells what is
    handed out and how many trials are left then. -/
def run (p : Supply σ) (w : Walk σ) : List Request → List (List Trial × Nat) × Walk σ
  | []            => ([], w)
  | request :: rs =>
      let (handed, w') := w.step p request
      let (answers, w'') := w'.run p rs
      ((handed, p.left w'.current) :: answers, w'')

end Walk

/-- The answers to a walk from the first trial on, and where it ends. -/
def Supply.walk {σ : Type} (p : Supply σ) (requests : List Request) :
    List (List Trial × Nat) × Walk σ :=
  (Walk.start p).run p requests

/-! ## Cursors within their sweep -/

/-- Nothing is divided by zero when a position is decoded, and all that its
    digits look up is there. -/
structure Sweep.Decodes (s : Sweep) (position : Nat) : Prop where
  runs    : 0 < s.dims.runs.val.toNat
  ratios  : 0 < s.dims.ratios.length
  threads : 0 < s.dims.threads.length
  ratio   : position / s.dims.runs.val.toNat % s.dims.ratios.length < s.dims.ratios.length
  thread  : position / s.dims.runs.val.toNat / s.dims.ratios.length % s.dims.threads.length
              < s.dims.threads.length
  variant : position / s.dims.runs.val.toNat / s.dims.ratios.length / s.dims.threads.length
              < s.suite.variants.length

/-- The position of a trial can be decoded. -/
theorem Sweep.decodes_of_lt {s : Sweep} {position : Nat} (h : position < s.trials.length) :
    s.Decodes position := by
  rw [Sweep.length_trials, Dimensions.perVariant] at h
  have hpos : 0 < s.suite.variants.length * (s.dims.threads.length * s.dims.ratios.length)
      * s.dims.runs.val.toNat := Nat.lt_of_le_of_lt (Nat.zero_le _) h
  have hratios : 0 < s.dims.ratios.length :=
    Nat.pos_of_mul_pos_left (Nat.pos_of_mul_pos_left (Nat.pos_of_mul_pos_right hpos))
  have hthreads : 0 < s.dims.threads.length :=
    Nat.pos_of_mul_pos_right (Nat.pos_of_mul_pos_left (Nat.pos_of_mul_pos_right hpos))
  refine ⟨s.dims.runs.toNat_pos, hratios, hthreads, Nat.mod_lt _ hratios,
    Nat.mod_lt _ hthreads, ?_⟩
  rw [Nat.div_div_eq_div_mul, Nat.div_div_eq_div_mul]
  refine Nat.div_lt_of_lt_mul ?_
  calc position
      < s.suite.variants.length * (s.dims.threads.length * s.dims.ratios.length)
          * s.dims.runs.val.toNat := h
    _ = s.dims.runs.val.toNat * (s.dims.ratios.length * s.dims.threads.length)
          * s.suite.variants.length := by ring

namespace Cursor

/-- The trial behind `n` others by asking for each of them in turn; the first
    time that there is none ends it. -/
def nthByNext (c : Cursor) : Nat → Option Trial × Cursor
  | 0     => c.next
  | n + 1 =>
      match c.next with
      | (none, c')   => (none, c')
      | (some _, c') => c'.nthByNext n

/-- Whoever skips from the end of a sweep stays there. -/
theorem nth_of_remaining_eq_zero {c : Cursor} (h : c.remaining = 0) (n : Nat) :
    c.nth n = (none, c) := by
  have hend : c.total ≤ c.position := Nat.sub_eq_zero_iff_le.mp h
  rw [nth, h, if_neg (Nat.not_lt_zero n), Nat.max_eq_left hend]

/-- Skipping no trial is asking for the next one. -/
theorem nth_zero (c : Cursor) : c.nth 0 = c.next := by
  by_cases hleft : c.remaining = 0
  · have hend : c.total ≤ c.position := Nat.sub_eq_zero_iff_le.mp hleft
    rw [nth_of_remaining_eq_zero hleft, next, if_neg (Nat.not_lt.mpr hend)]
  · rw [nth, if_pos (Nat.pos_of_ne_zero hleft)]
    rfl

/-- Skipping one trial more is skipping from one place further on. -/
theorem nth_succ {c : Cursor} (h : 0 < c.remaining) (n : Nat) :
    c.nth (n + 1) = nth { c with position := c.position + 1 } n := by
  have hlt : c.position < c.total := Nat.lt_of_sub_pos h
  have hleft : c.remaining = remaining { c with position := c.position + 1 } + 1 := by
    show c.total - c.position = c.total - (c.position + 1) + 1
    omega
  rw [nth, nth, hleft]
  by_cases hn : n < remaining { c with position := c.position + 1 }
  · rw [if_pos hn, if_pos (Nat.succ_lt_succ hn), Nat.add_assoc c.position 1 n, Nat.add_comm 1 n]
  · rw [if_neg hn, if_neg (fun h => hn (Nat.lt_of_succ_lt_succ h)),
      Nat.max_eq_right (Nat.le_of_lt hlt), Nat.max_eq_right hlt]

/-- A cursor stands in a sweep whose trials can be counted, and `rest` is what is
    behind it. -/
structure At (s : Sweep) (c : Cursor) (rest : List Trial) : Prop where
  sweep   : c.sweep = s
  counted : c.total = s.trials.length
  bounded : c.position ≤ c.total
  behind  : rest = s.trials.drop c.position

/-- **A CURSOR IS SAFE AND EXACT**: it does not stand past the end of its sweep,
    decodes only what is there, and `rest` is what it has still to hand out. -/
structure Exact (s : Sweep) (c : Cursor) (rest : List Trial) : Prop extends At s c rest where
  decodes   : c.position < c.total → s.Decodes c.position
  remaining : c.remaining = rest.length
  collect   : c.collect = rest
  nth       : ∀ n, c.nth n = c.nthByNext n
  exhausted : rest = [] → c.next = (none, c)

theorem At.start (s : Sweep) : At s ⟨s, 0, s.trials.length⟩ s.trials :=
  ⟨rfl, rfl, Nat.zero_le _, rfl⟩

namespace At

variable {s : Sweep} {c : Cursor} {rest : List Trial}

theorem remaining (h : At s c rest) : c.remaining = rest.length := by
  rw [h.behind, List.length_drop, ← h.counted]
  rfl

theorem next_nil (h : At s c []) : c.next = (none, c) := by
  have hnone : c.remaining = 0 := h.remaining
  exact if_neg (Nat.not_lt.mpr (Nat.sub_eq_zero_iff_le.mp hnone))

theorem next_cons {t : Trial} (h : At s c (t :: rest)) :
    c.next = (some t, { c with position := c.position + 1 }) ∧
      At s { c with position := c.position + 1 } rest := by
  have hne : s.trials.drop c.position ≠ [] := h.behind ▸ List.cons_ne_nil t rest
  have hlt : c.position < s.trials.length :=
    Nat.lt_of_not_le (List.drop_eq_nil_iff.not.mp hne)
  have hbehind : t :: rest = s.trials[c.position] :: s.trials.drop (c.position + 1) :=
    h.behind.trans (List.drop_eq_getElem_cons hlt)
  obtain ⟨rfl, rfl⟩ := List.cons.inj hbehind
  refine ⟨?_, h.sweep, h.counted, by rw [h.counted]; exact hlt, rfl⟩
  rw [next, h.sweep, if_pos (by rw [h.counted]; exact hlt), Sweep.trialAt?_eq_getElem?,
    List.getElem?_eq_getElem hlt]

/-- Asking for the next trial takes it off the list. -/
theorem next (h : At s c rest) : c.next.1 = rest.head? ∧ At s c.next.2 rest.tail := by
  cases rest with
  | nil =>
      rw [h.next_nil]
      exact ⟨rfl, h⟩
  | cons t rest =>
      obtain ⟨hnext, hrest⟩ := h.next_cons
      rw [hnext]
      exact ⟨rfl, hrest⟩

/-- What is asked for trial by trial is taken off the list trial by trial. -/
theorem nthByNext (h : At s c rest) (n : Nat) :
    (c.nthByNext n).1 = rest[n]? ∧ At s (c.nthByNext n).2 (rest.drop (n + 1)) := by
  induction n generalizing c rest with
  | zero =>
      rw [← List.head?_eq_getElem?, Nat.zero_add, List.drop_one]
      exact h.next
  | succ n ih =>
      cases rest with
      | nil =>
          rw [Cursor.nthByNext, h.next_nil]
          exact ⟨rfl, h⟩
      | cons t rest =>
          obtain ⟨hnext, hrest⟩ := h.next_cons
          rw [Cursor.nthByNext, hnext, List.getElem?_cons_succ, List.drop_succ_cons]
          exact ih hrest

/-- Skipping ahead is asking for each trial in turn. -/
theorem nth_eq_nthByNext (h : At s c rest) (n : Nat) : c.nth n = c.nthByNext n := by
  induction n generalizing c rest with
  | zero => exact c.nth_zero
  | succ n ih =>
      cases rest with
      | nil =>
          rw [Cursor.nthByNext, h.next_nil]
          exact nth_of_remaining_eq_zero h.remaining (n + 1)
      | cons t rest =>
          obtain ⟨hnext, hrest⟩ := h.next_cons
          have hleft : 0 < c.remaining := by
            rw [h.remaining]
            exact Nat.succ_pos _
          rw [Cursor.nthByNext, hnext, nth_succ hleft]
          exact ih hrest

theorem nth (h : At s c rest) (n : Nat) :
    (c.nth n).1 = rest[n]? ∧ At s (c.nth n).2 (rest.drop (n + 1)) := by
  rw [h.nth_eq_nthByNext]
  exact h.nthByNext n

/-- Asking for several trials takes them off the list. -/
theorem take (h : At s c rest) (n : Nat) :
    (c.take n).1 = rest.take n ∧ At s (c.take n).2 (rest.drop n) := by
  induction n generalizing c rest with
  | zero => exact ⟨rfl, h⟩
  | succ n ih =>
      cases rest with
      | nil =>
          rw [Cursor.take, h.next_nil]
          exact ⟨rfl, h⟩
      | cons t rest =>
          obtain ⟨hnext, hrest⟩ := h.next_cons
          obtain ⟨htake, hdrop⟩ := ih hrest
          rw [Cursor.take, hnext]
          exact ⟨congrArg (t :: ·) htake, hdrop⟩

/-- Whatever stands in a sweep that can be counted is safe and exact. -/
theorem exact (h : At s c rest) : Exact s c rest where
  toAt := h
  decodes hlt := Sweep.decodes_of_lt (h.counted ▸ hlt)
  remaining := h.remaining
  collect := by
    rw [collect_eq_drop c (by rw [h.sweep]; exact h.counted), h.sweep, ← h.behind]
  nth := h.nth_eq_nthByNext
  exhausted := by
    rintro rfl
    exact h.next_nil

end At

end Cursor

/-! ## Walks answered alike -/

namespace Walk

/-- A walk along a sweep and one along a list stand at the same place, and so do
    their copies. -/
structure Alike (s : Sweep) (w : Walk Cursor) (l : Walk (List Trial)) : Prop where
  current : Cursor.At s w.current l.current
  copies  : List.Forall₂ (Cursor.At s) w.copies l.copies

variable {s : Sweep} {first : Cursor} {w : Walk Cursor} {l : Walk (List Trial)}

theorem Alike.start (hfirst : Cursor.At s first s.trials) :
    Alike s (start (Supply.ofCursor first)) (start (Supply.ofList s.trials)) :=
  ⟨hfirst, .nil⟩

/-- Walks that stand at the same place go back to the same place. -/
theorem Alike.copy (h : Alike s w l) (i : Nat) :
    Cursor.At s (w.copies[i]?.getD w.current) (l.copies[i]?.getD l.current) := by
  have hlength : w.copies.length = l.copies.length := h.copies.length_eq
  by_cases hi : i < w.copies.length
  · have hi' : i < l.copies.length := hlength ▸ hi
    rw [List.getElem?_eq_getElem hi, List.getElem?_eq_getElem hi']
    exact h.copies.get hi hi'
  · rw [List.getElem?_eq_none (by omega), List.getElem?_eq_none (by omega)]
    exact h.current

/-- **ONE STEP** of walks that stand at the same place hands out the same trials
    and leaves them at the same place. -/
theorem Alike.step (hfirst : Cursor.At s first s.trials) (h : Alike s w l) (request : Request) :
    (w.step (.ofCursor first) request).1 = (l.step (.ofList s.trials) request).1 ∧
      Alike s (w.step (.ofCursor first) request).2 (l.step (.ofList s.trials) request).2 := by
  cases request with
  | next =>
      obtain ⟨hhanded, hrest⟩ := h.current.next
      exact ⟨congrArg Option.toList hhanded, hrest, h.copies⟩
  | nth n =>
      obtain ⟨hhanded, hrest⟩ := h.current.nth n
      exact ⟨congrArg Option.toList hhanded, hrest, h.copies⟩
  | take n =>
      obtain ⟨hhanded, hrest⟩ := h.current.take n
      exact ⟨hhanded, hrest, h.copies⟩
  | copy => exact ⟨rfl, h.current, List.rel_append h.copies (.cons h.current .nil)⟩
  | restore i => exact ⟨rfl, h.copy i, h.copies⟩
  | restart => exact ⟨rfl, hfirst, h.copies⟩

/-- Whole walks that start at the same place have the same answers and end at
    the same place. -/
theorem Alike.run (hfirst : Cursor.At s first s.trials) (h : Alike s w l)
    (requests : List Request) :
    (w.run (.ofCursor first) requests).1 = (l.run (.ofList s.trials) requests).1 ∧
      Alike s (w.run (.ofCursor first) requests).2 (l.run (.ofList s.trials) requests).2 := by
  induction requests generalizing w l with
  | nil => exact ⟨rfl, h⟩
  | cons request rs ih =>
      obtain ⟨hhanded, hstep⟩ := h.step hfirst request
      obtain ⟨hanswers, hrun⟩ := ih hstep
      have hleft : (w.step (.ofCursor first) request).2.current.remaining
          = (l.step (.ofList s.trials) request).2.current.length :=
        hstep.current.remaining
      refine ⟨?_, hrun⟩
      exact congrArg₂ List.cons (Prod.ext hhanded hleft) hanswers

end Walk

/-- **EVERY WALK** along the sweep of an accepted suite over accepted dimensions is
    answered like the same walk along their nested product, if its trials can be
    counted; and the cursors it leaves, copies included, are safe and exact. -/
theorem walk_eq_list_walk {name : SuiteName} {executable : String} {encoding : Encoding}
    {keys : Option UInt64} {marker : String} {variants : List Variant} {suite : Suite}
    {duration : TrialDuration} {runs : RunCount} {threads : List ThreadCount}
    {ratios : List Permil} {dims : Dimensions}
    (hsuite : Suite.make name executable encoding keys marker variants = .ok suite)
    (hdims : Dimensions.make duration runs threads ratios = .ok dims)
    (hfit : variants.length * threads.length * ratios.length * runs.val.toNat < 2 ^ 64)
    (requests : List Request) :
    let sweep : Sweep := ⟨suite, dims⟩
    let trials := variants.flatMap fun v => threads.flatMap fun t => ratios.flatMap fun r =>
      (List.range runs.val.toNat).map fun k =>
        { suite, variant := v, threads := t, ratio := r, repetition := UInt32.ofNat k }
    ∃ start, Cursor.start? sweep = some start ∧
      let walk := (Supply.ofCursor start).walk requests
      let listWalk := (Supply.ofList trials).walk requests
      sweep.trials = trials ∧
      sweep.length? = some trials.length ∧
      trials.length = variants.length * threads.length * ratios.length * runs.val.toNat ∧
      walk.1 = listWalk.1 ∧
      Cursor.Exact sweep walk.2.current listWalk.2.current ∧
      List.Forall₂ (Cursor.Exact sweep) walk.2.copies listWalk.2.copies := by
  obtain ⟨-, -, rfl⟩ := (Suite.make_eq_ok_iff ..).mp hsuite
  obtain ⟨-, -, rfl⟩ := (Dimensions.make_eq_ok_iff ..).mp hdims
  intro sweep trials
  have hproduct : sweep.trials.length
      = variants.length * threads.length * ratios.length * runs.val.toNat :=
    (Sweep.length_trials _).trans (congrArg (· * runs.val.toNat) (Nat.mul_assoc ..).symm)
  have hlt : sweep.trials.length < 2 ^ 64 := by
    rw [hproduct]
    exact hfit
  refine ⟨_, Cursor.start?_of_lt hlt, ?_⟩
  intro walk listWalk
  have hfirst : Cursor.At sweep ⟨sweep, 0, sweep.trials.length⟩ sweep.trials := .start sweep
  obtain ⟨hanswers, halike⟩ := (Walk.Alike.start hfirst).run hfirst requests
  refine ⟨rfl, Sweep.length?_of_lt hlt, hproduct, hanswers, halike.current.exact, ?_⟩
  exact halike.copies.imp fun _ _ h => h.exact

/-- A walk along the twelve trials of a skip list: it skips two, keeps that place,
    runs past the end, goes back to the place and starts over. -/
theorem walk_skiplist :
    let variants : List Variant :=
      [⟨⟨"hsskip-orcorig", by decide⟩, "original"⟩, ⟨⟨"hsskip-orc", by decide⟩, ""⟩]
    let suite := builtinSuite "bin" "set-skiplist-1m" 1000000 variants (by decide)
    let runs : RunCount := ⟨3, by decide⟩
    let threads : List ThreadCount := [⟨4, by decide⟩, ⟨1, by decide⟩]
    let ratios : List Permil := [⟨100, by decide⟩]
    let dims : Dimensions := ⟨⟨20, by decide, by decide⟩, runs, threads, ratios⟩
    let requests : List Request :=
      [.nth 2, .copy, .take 2, .nth 40, .next, .restore 0, .next, .restart, .nth 11, .next]
    Suite.make suite.name suite.executable .flags suite.keys defaultMarker variants = .ok suite ∧
    Dimensions.make dims.duration runs threads ratios = .ok dims ∧
    ∃ start, Cursor.start? ⟨suite, dims⟩ = some start ∧
      let walk := (Supply.ofCursor start).walk requests
      (walk.1.map fun answer =>
        (answer.1.map fun t => (t.variant.name.text, t.threads.val.toNat, t.repetition), answer.2))
        = [([("hsskip-orcorig", 4, 2)], 9), ([], 9),
           ([("hsskip-orcorig", 1, 0), ("hsskip-orcorig", 1, 1)], 7), ([], 0), ([], 0), ([], 9),
           ([("hsskip-orcorig", 1, 0)], 8), ([], 12), ([("hsskip-orc", 1, 2)], 0), ([], 0)] ∧
      walk.2.current.next = (none, walk.2.current) := by
  intro variants suite runs threads ratios dims requests
  have hsuite : Suite.make suite.name suite.executable .flags suite.keys defaultMarker variants
      = .ok suite := (Suite.make_eq_ok_iff ..).mpr ⟨by simp [variants], by decide +kernel, rfl⟩
  have hdims : Dimensions.make dims.duration runs threads ratios = .ok dims :=
    (Dimensions.make_eq_ok_iff ..).mpr ⟨by decide, by decide, rfl⟩
  obtain ⟨start, hstart, -, -, -, hanswers, hcurrent, -⟩ :=
    walk_eq_list_walk hsuite hdims (by decide) requests
  refine ⟨hsuite, hdims, start, hstart, ?_, hcurrent.exhausted (by decide +kernel)⟩
  -- the list is short, so its walk can be followed to the end
  rw [hanswers]
  decide +kernel

end BenchSweep
