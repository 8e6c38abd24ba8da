import BenchSweep.Proofs.Distinct

/-! # Which repeat a scan reports

    Four lists are scanned for repeats: thread counts, ratios, the variants of a
    suite and the suites of a catalog.  All of them are **DECIDED ALIKE**
    (`scans_decide_alike`): an empty list has one fault, a list that repeats
    something has another, and any other list is kept as it is.  The second fault
    names the element at the smallest index of a repeat.  What that is says
    `IsFirstRepeat`, by indices alone and for lists of any kind; the scan is met
    with it once (`firstRepeat?_eq_some_iff`). -/

namespace BenchSweep

/-! ## Repeats by their index -/

section Indices

variable {κ : Type}

/-- What stands at this index of a list stands at an earlier one too. -/
def IsRepeat (keys : List κ) (i : Nat) : Prop :=
  ∃ j < i, ∃ k, keys[j]? = some k ∧ keys[i]? = some k

/-- The smallest index of a repeat. -/
structure IsFirstRepeat (keys : List κ) (i : Nat) : Prop where
  repeats : IsRepeat keys i
  minimal : ∀ j < i, ¬ IsRepeat keys j

/-- A repeat is among what comes before it. -/
theorem isRepeat_iff {keys : List κ} {i : Nat} :
    IsRepeat keys i ↔ ∃ k ∈ keys.take i, keys[i]? = some k := by
  constructor
  · rintro ⟨j, hj, k, hearlier, hk⟩
    refine ⟨k, List.mem_iff_getElem?.mpr ⟨j, ?_⟩, hk⟩
    rw [List.getElem?_take, if_pos hj]
    exact hearlier
  · rintro ⟨k, hmem, hk⟩
    obtain ⟨j, hearlier⟩ := List.mem_iff_getElem?.mp hmem
    rw [List.getElem?_take] at hearlier
    split at hearlier
    · next hj => exact ⟨j, hj, k, hearlier, hk⟩
    · exact nomatch hearlier

/-- The front of a list repeats nothing just if there is no repeat at its indices. -/
theorem nodup_take_iff {keys : List κ} {i : Nat} :
    (keys.take i).Nodup ↔ ∀ j < i, ¬ IsRepeat keys j := by
  induction i with
  | zero => simp
  | succ i ih =>
      rw [Nat.forall_lt_succ_right, ← ih, isRepeat_iff, List.take_add_one]
      cases hk : keys[i]? with
      | none => simp
      | some k =>
          rw [Option.toList_some, List.nodup_append_comm, List.singleton_append,
            List.nodup_cons, and_comm]
          simp only [Option.some.injEq, exists_eq_right']

end Indices

/-! ## The scan -/

variable {α κ : Type} [DecidableEq κ]

/-- The scan ends at the first element whose key has been seen: in front of it there
    was none, and its own is among those seen before or those in front of it. -/
theorem firstRepeatAfter?_eq_some_iff (key : α → κ) (seen : List κ) (xs : List α) (x : α) :
    firstRepeatAfter? key seen xs = some x ↔
      ∃ i, xs[i]? = some x ∧ firstRepeatAfter? key seen (xs.take i) = none ∧
        (key x ∈ seen ∨ key x ∈ (xs.take i).map key) := by
  induction xs generalizing seen with
  | nil => simp [firstRepeatAfter?]
  | cons y ys ih =>
      by_cases h : key y ∈ seen
      · rw [firstRepeatAfter?, if_pos h]
        constructor
        · rintro ⟨⟩
          exact ⟨0, rfl, rfl, .inl h⟩
        · rintro ⟨i, hx, hfront, -⟩
          cases i with
          | zero => exact hx
          | succ i =>
              rw [List.take_succ_cons, firstRepeatAfter?, if_pos h] at hfront
              cases hfront
      · -- one element on, the set of seen keys has grown by the key of this one, which
        -- otherwise stands in front
        have hscan : ∀ front, firstRepeatAfter? key seen (y :: front)
            = firstRepeatAfter? key (key y :: seen) front := by
          intro front
          rw [firstRepeatAfter?, if_neg h]
        have hseen : ∀ front : List α, (key x ∈ key y :: seen ∨ key x ∈ front.map key) ↔
            (key x ∈ seen ∨ key x ∈ (y :: front).map key) := by
          intro front
          rw [List.mem_cons, List.map_cons, List.mem_cons, or_assoc, or_left_comm]
        rw [hscan, ih]
        constructor
        · rintro ⟨i, hx, hfront, hmem⟩
          refine ⟨i + 1, hx, ?_, ?_⟩
          · rw [List.take_succ_cons, hscan]
            exact hfront
          · exact (hseen _).mp hmem
        · rintro ⟨i, hx, hfront, hmem⟩
          cases i with
          | zero =>
              obtain rfl := Option.some.inj hx
              exact absurd (hmem.resolve_right List.not_mem_nil) h
          | succ i =>
              rw [List.take_succ_cons, hscan] at hfront
              exact ⟨i, hx, hfront, (hseen _).mpr hmem⟩

/-- **THE REPEAT** that a scan finds is the element at the smallest index where a key
    stands that stands at an earlier one. -/
theorem firstRepeat?_eq_some_iff (key : α → κ) (xs : List α) (x : α) :
    firstRepeat? key xs = some x ↔
      ∃ i, xs[i]? = some x ∧ IsFirstRepeat (xs.map key) i := by
  -- nothing has been seen at the start, so the scan ends at an index by that index alone
  have hfirst : ∀ i, xs[i]? = some x →
      (IsFirstRepeat (xs.map key) i ↔
        firstRepeatAfter? key [] (xs.take i) = none ∧
          (key x ∈ [] ∨ key x ∈ (xs.take i).map key)) := by
    intro i hx
    have hkey : (xs.map key)[i]? = some (key x) := by
      rw [List.getElem?_map, hx, Option.map_some]
    have hfront : firstRepeatAfter? key [] (xs.take i) = none ↔
        ∀ j < i, ¬ IsRepeat (xs.map key) j := by
      rw [← nodup_take_iff, ← List.map_take]
      exact firstRepeat?_eq_none_iff key _
    have hrepeat : (key x ∈ [] ∨ key x ∈ (xs.take i).map key) ↔
        IsRepeat (xs.map key) i := by
      rw [isRepeat_iff, hkey, List.map_take]
      simp only [List.not_mem_nil, false_or, Option.some.injEq, exists_eq_right']
    rw [hfront, hrepeat]
    exact ⟨fun h => ⟨h.minimal, h.repeats⟩, fun h => ⟨h.2, h.1⟩⟩
  rw [firstRepeat?, firstRepeatAfter?_eq_some_iff]
  exact exists_congr fun i => and_congr_right fun hx => (hfirst i hx).symm

example : firstRepeat? id [4, 2, 2, 4] = some 2 := by decide

/-! ## The checks -/

/-- A check of lists tells three kinds apart.  The empty list has the fault of an
    empty setting.  A list of elements with distinct keys is made into something.
    Any other list has the fault of its element at the first repeat. -/
structure ChecksRepeats {β : Type} (check : List α → Except Fault β) (key : α → κ)
    (setting : Setting) (repeated : α → Fault) (make : List α → β) : Prop where
  empty : ∀ xs, check xs = .error (.emptyList setting) ↔ xs = []
  distinct : ∀ xs b, check xs = .ok b ↔ xs ≠ [] ∧ (xs.map key).Nodup ∧ b = make xs
  refused : ∀ xs fault, xs ≠ [] ∧ check xs = .error fault ↔
    ∃ i x, xs[i]? = some x ∧ IsFirstRepeat (xs.map key) i ∧ fault = repeated x

/-- A check does so if it asks for emptiness first and then goes by the scan. -/
theorem ChecksRepeats.of_scan {β : Type} {check : List α → Except Fault β} {key : α → κ}
    {setting : Setting} {repeated : α → Fault} {make : List α → β}
    (hother : ∀ x, repeated x ≠ .emptyList setting)
    (hnil : check [] = .error (.emptyList setting))
    (hsome : ∀ x xs y, firstRepeat? key (x :: xs) = some y →
      check (x :: xs) = .error (repeated y))
    (hnone : ∀ x xs, firstRepeat? key (x :: xs) = none →
      check (x :: xs) = .ok (make (x :: xs))) :
    ChecksRepeats check key setting repeated make := by
  refine ⟨?_, ?_, ?_⟩
  · intro xs
    cases xs with
    | nil => exact iff_of_true hnil rfl
    | cons x xs =>
        refine iff_of_false ?_ (List.cons_ne_nil x xs)
        cases hscan : firstRepeat? key (x :: xs) with
        | none =>
            rw [hnone x xs hscan]
            exact nofun
        | some y =>
            rw [hsome x xs y hscan]
            exact fun h => hother y (Except.error.inj h)
  · intro xs b
    rw [← firstRepeat?_eq_none_iff]
    cases xs with
    | nil =>
        rw [hnil]
        exact iff_of_false nofun fun h => h.1 rfl
    | cons x xs =>
        cases hscan : firstRepeat? key (x :: xs) with
        | none =>
            rw [hnone x xs hscan, Except.ok.injEq, eq_comm]
            exact ⟨fun h => ⟨List.cons_ne_nil x xs, rfl, h⟩, fun h => h.2.2⟩
        | some y =>
            rw [hsome x xs y hscan]
            exact iff_of_false nofun fun h => nomatch h.2.1
  · intro xs fault
    have hnamed : (∃ i x, xs[i]? = some x ∧ IsFirstRepeat (xs.map key) i ∧
        fault = repeated x) ↔ ∃ x, firstRepeat? key xs = some x ∧ fault = repeated x := by
      simp only [firstRepeat?_eq_some_iff]
      constructor
      · rintro ⟨i, x, hx, hfirst, hfault⟩
        exact ⟨x, ⟨i, hx, hfirst⟩, hfault⟩
      · rintro ⟨x, ⟨i, hx, hfirst⟩, hfault⟩
        exact ⟨i, x, hx, hfirst, hfault⟩
    rw [hnamed]
    cases xs with
    | nil => exact iff_of_false (fun h => h.1 rfl) fun ⟨_, hx, _⟩ => nomatch hx
    | cons x xs =>
        rw [and_iff_right (List.cons_ne_nil x xs)]
        cases hscan : firstRepeat? key (x :: xs) with
        | none =>
            rw [hnone x xs hscan]
            exact iff_of_false nofun fun ⟨_, hx, _⟩ => nomatch hx
        | some y =>
            rw [hsome x xs y hscan, Except.error.injEq, eq_comm]
            constructor
            · intro hfault
              exact ⟨y, rfl, hfault⟩
            · rintro ⟨z, ⟨⟩, hfault⟩
              exact hfault

/-- The check of a list of settings. -/
theorem checksRepeats_checkList [DecidableEq α] (setting : Setting) (text : α → String) :
    ChecksRepeats (checkList setting text) id setting
      (fun x => .refused setting (text x) .listedTwice) (fun _ => ()) := by
  refine .of_scan (fun _ => nofun) rfl ?_ ?_
  · intro x xs y hscan
    rw [checkList, hscan]
    rfl
  · intro x xs hscan
    rw [checkList, hscan]
    rfl

/-- The check of a suite's variants. -/
theorem checksRepeats_make (name : SuiteName) (executable : String) (encoding : Encoding)
    (keys : Option UInt64) (marker : String) :
    ChecksRepeats (Suite.make name executable encoding keys marker) (·.name) .variants
      (fun v => .duplicateVariant v.name.text name.text)
      (fun variants => { name, executable, encoding, keys, marker, variants }) := by
  refine .of_scan (fun _ => nofun) rfl ?_ ?_
  · intro x xs y hscan
    rw [Suite.make, checkVariants, hscan]
    rfl
  · intro x xs hscan
    rw [Suite.make, checkVariants, hscan]
    rfl

/-- The check of a catalog's suites. -/
theorem checksRepeats_ofSuites :
    ChecksRepeats Catalog.ofSuites (·.name) .suites (fun s => .duplicateSuite s.name.text)
      Catalog.mk := by
  refine .of_scan (fun _ => nofun) rfl ?_ ?_
  · intro x xs y hscan
    rw [Catalog.ofSuites, hscan]
    rfl
  · intro x xs hscan
    rw [Catalog.ofSuites, hscan]
    rfl

/-- Dimensions are refused for their thread counts, or else for their ratios. -/
theorem Dimensions.make_eq_error_iff (duration : TrialDuration) (runs : RunCount)
    (threads : List ThreadCount) (ratios : List Permil) (fault : Fault) :
    Dimensions.make duration runs threads ratios = .error fault ↔
      checkList .threads ThreadCount.text threads = .error fault ∨
        checkList .threads ThreadCount.text threads = .ok () ∧
          checkList .ratios Permil.text ratios = .error fault := by
  rw [Dimensions.make, bind_eq_error_iff]
  refine or_congr_right ?_
  constructor
  · rintro ⟨⟨⟩, hthreads, h⟩
    obtain hratios | ⟨⟨⟩, -, h⟩ := (bind_eq_error_iff _ _ _).mp h
    · exact ⟨hthreads, hratios⟩
    · cases h
  · rintro ⟨hthreads, hratios⟩
    exact ⟨(), hthreads, (bind_eq_error_iff _ _ _).mpr (.inl hratios)⟩

/-- **THE SCANS DECIDE ALIKE**, those of thread counts and of ratios, of which dimensions
    are made with both lists as they are, those of variants, and those of suites. -/
theorem scans_decide_alike :
    ChecksRepeats (checkList .threads ThreadCount.text) id .threads
      (fun t => .refused .threads t.text .listedTwice) (fun _ => ()) ∧
    ChecksRepeats (checkList .ratios Permil.text) id .ratios
      (fun r => .refused .ratios r.text .listedTwice) (fun _ => ()) ∧
    (∀ duration runs threads ratios,
      (∀ dims, Dimensions.make duration runs threads ratios = .ok dims ↔
        checkList .threads ThreadCount.text threads = .ok () ∧
        checkList .ratios Permil.text ratios = .ok () ∧
        dims = { duration, runs, threads, ratios }) ∧
      (∀ fault, Dimensions.make duration runs threads ratios = .error fault ↔
        checkList .threads ThreadCount.text threads = .error fault ∨
          checkList .threads ThreadCount.text threads = .ok () ∧
            checkList .ratios Permil.text ratios = .error fault)) ∧
    (∀ name executable encoding keys marker,
      ChecksRepeats (Suite.make name executable encoding keys marker) (·.name) .variants
        (fun v => .duplicateVariant v.name.text name.text)
        (fun variants => { name, executable, encoding, keys, marker, variants })) ∧
    ChecksRepeats Catalog.ofSuites (·.name) .suites
      (fun s => .duplicateSuite s.name.text) Catalog.mk := by
  refine ⟨checksRepeats_checkList .threads _, checksRepeats_checkList .ratios _, ?_,
    checksRepeats_make, checksRepeats_ofSuites⟩
  intro duration runs threads ratios
  refine ⟨?_, Dimensions.make_eq_error_iff duration runs threads ratios⟩
  intro dims
  rw [Dimensions.make_eq_ok_iff, checkList_eq_ok_iff, checkList_eq_ok_iff]

end BenchSweep
