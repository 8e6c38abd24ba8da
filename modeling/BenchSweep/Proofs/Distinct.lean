import BenchSweep.Suite.Catalog
import BenchSweep.Sweep.Dimensions
import Mathlib.Data.List.Nodup

/-! # What the scans for repeats accept

    Thread counts, ratios, variants and suites are all scanned for a repeat
    before a sweep is built from them.  The scan finds none exactly if the keys
    are pairwise distinct (`firstRepeat?_eq_none_iff`); from that follows what
    each of the constructors accepts, and what it makes of it. -/

namespace BenchSweep

/-- A computation in two steps has a result if both steps have one. -/
theorem bind_eq_ok_iff {ε α β : Type} (x : Except ε α) (f : α → Except ε β) (b : β) :
    (x >>= f) = .ok b ↔ ∃ a, x = .ok a ∧ f a = .ok b := by
  cases x with
  | error e => simp [bind, Except.bind]
  | ok a => simp [bind, Except.bind]

/-- A computation in two steps fails with the fault of the first that fails. -/
theorem bind_eq_error_iff {ε α β : Type} (x : Except ε α) (f : α → Except ε β) (e : ε) :
    (x >>= f) = .error e ↔ x = .error e ∨ ∃ a, x = .ok a ∧ f a = .error e := by
  cases x with
  | error e => simp [bind, Except.bind]
  | ok a => simp [bind, Except.bind]

/-- Another wording of its faults gives a computation no other result. -/
theorem mapError_eq_ok_iff {ε ε' α : Type} {f : ε → ε'} {x : Except ε α} {a : α} :
    x.mapError f = .ok a ↔ x = .ok a := by
  cases x with
  | error e => exact ⟨nofun, nofun⟩
  | ok b => rw [Except.mapError, Except.ok.injEq, Except.ok.injEq]

variable {α κ : Type} [DecidableEq κ]

/-- The scan finds nothing if the keys are distinct and none has been seen. -/
theorem firstRepeatAfter?_eq_none_iff (key : α → κ) (seen : List κ) (xs : List α) :
    firstRepeatAfter? key seen xs = none ↔
      (xs.map key).Nodup ∧ ∀ x ∈ xs, key x ∉ seen := by
  induction xs generalizing seen with
  | nil => simp [firstRepeatAfter?]
  | cons x xs ih =>
      by_cases h : key x ∈ seen
      · simp [firstRepeatAfter?, h]
      · rw [firstRepeatAfter?, if_neg h, ih]
        simp only [List.map_cons, List.nodup_cons, List.mem_map, List.mem_cons,
          forall_eq_or_imp, not_or, not_exists, not_and]
        constructor
        · rintro ⟨hnodup, hfresh⟩
          exact ⟨⟨fun y hy => (hfresh y hy).1, hnodup⟩, h, fun y hy => (hfresh y hy).2⟩
        · rintro ⟨⟨hx, hnodup⟩, -, hfresh⟩
          exact ⟨hnodup, fun y hy => ⟨hx y hy, hfresh y hy⟩⟩

/-- **NO REPEAT** is found exactly in a list whose keys are distinct. -/
theorem firstRepeat?_eq_none_iff (key : α → κ) (xs : List α) :
    firstRepeat? key xs = none ↔ (xs.map key).Nodup := by
  rw [firstRepeat?, firstRepeatAfter?_eq_none_iff]
  simp

/-! ## The checked lists -/

/-- Accepted settings are not empty and repeat nothing. -/
theorem checkList_eq_ok_iff [DecidableEq α] (setting : Setting) (text : α → String)
    (values : List α) :
    checkList setting text values = .ok () ↔ values ≠ [] ∧ values.Nodup := by
  rw [checkList]
  cases values with
  | nil => simp
  | cons v vs =>
      have hscan := firstRepeat?_eq_none_iff id (v :: vs)
      rw [List.map_id] at hscan
      rw [← hscan]
      cases hfound : firstRepeat? id (v :: vs) with
      | none => simp
      | some w => simp

/-- Accepted variants are not none, and their names differ. -/
theorem checkVariants_eq_ok_iff (suite : SuiteName) (variants : List Variant) :
    checkVariants suite variants = .ok () ↔
      variants ≠ [] ∧ (variants.map (·.name)).Nodup := by
  rw [checkVariants]
  cases variants with
  | nil => simp
  | cons v vs =>
      rw [← firstRepeat?_eq_none_iff]
      cases hfound : firstRepeat? (fun v : Variant => v.name) (v :: vs) with
      | none => simp
      | some w => simp

/-- Accepted suites are not none, their names differ, and they are the catalog. -/
theorem Catalog.ofSuites_eq_ok_iff (suites : List Suite) (catalog : Catalog) :
    Catalog.ofSuites suites = .ok catalog ↔
      suites ≠ [] ∧ (suites.map (·.name)).Nodup ∧ catalog = ⟨suites⟩ := by
  rw [Catalog.ofSuites]
  cases suites with
  | nil => simp
  | cons s ss =>
      rw [← firstRepeat?_eq_none_iff]
      cases hfound : firstRepeat? (fun s : Suite => s.name) (s :: ss) with
      | none => simp [eq_comm]
      | some w => simp

/-- A suite that is made has the parts it was made of, and distinct variants. -/
theorem Suite.make_eq_ok_iff (name : SuiteName) (executable : String) (encoding : Encoding)
    (keys : Option UInt64) (marker : String) (variants : List Variant) (suite : Suite) :
    Suite.make name executable encoding keys marker variants = .ok suite ↔
      variants ≠ [] ∧ (variants.map (·.name)).Nodup ∧
        suite = { name, executable, encoding, keys, marker, variants } := by
  rw [Suite.make, bind_eq_ok_iff]
  constructor
  · rintro ⟨⟨⟩, hchecked, hsuite⟩
    obtain ⟨hne, hnodup⟩ := (checkVariants_eq_ok_iff _ _).mp hchecked
    exact ⟨hne, hnodup, (Except.ok.inj hsuite).symm⟩
  · rintro ⟨hne, hnodup, rfl⟩
    exact ⟨(), (checkVariants_eq_ok_iff _ _).mpr ⟨hne, hnodup⟩, rfl⟩

/-- Dimensions that are made have the parts they were made of, and list nothing
    twice. -/
theorem Dimensions.make_eq_ok_iff (duration : TrialDuration) (runs : RunCount)
    (threads : List ThreadCount) (ratios : List Permil) (dims : Dimensions) :
    Dimensions.make duration runs threads ratios = .ok dims ↔
      (threads ≠ [] ∧ threads.Nodup) ∧ (ratios ≠ [] ∧ ratios.Nodup) ∧
        dims = { duration, runs, threads, ratios } := by
  rw [Dimensions.make, bind_eq_ok_iff]
  constructor
  · rintro ⟨⟨⟩, hthreads, h⟩
    obtain ⟨⟨⟩, hratios, h⟩ := (bind_eq_ok_iff _ _ _).mp h
    exact ⟨(checkList_eq_ok_iff _ _ _).mp hthreads, (checkList_eq_ok_iff _ _ _).mp hratios,
      (Except.ok.inj h).symm⟩
  · rintro ⟨hthreads, hratios, rfl⟩
    refine ⟨(), (checkList_eq_ok_iff _ _ _).mpr hthreads, ?_⟩
    exact (bind_eq_ok_iff _ _ _).mpr ⟨(), (checkList_eq_ok_iff _ _ _).mpr hratios, rfl⟩

end BenchSweep
