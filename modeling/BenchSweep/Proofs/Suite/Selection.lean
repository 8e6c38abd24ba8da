import BenchSweep.Proofs.Distinct
import BenchSweep.Suite.Builtin
import Mathlib.Data.List.Perm.Subperm

/-! # Selecting suites by name

    A selection keeps the suites with the requested names, in the order of the catalog,
    and fails on the first name that the catalog does not have (`Catalog.select_eq_ok_iff`,
    `Catalog.select_eq_error_iff`).  Where each name has one suite, that determines the
    result: `Catalog.IsSelection` says what it is without saying how it is found.  So a
    request counts as a set of names, a repeated selection changes nothing, and two
    selections in a row make one (`Catalog.selection_is_by_set_of_names`). -/

namespace BenchSweep

/-- Of a list without repeats, the part in order that has just the elements with some
    property is the filtered list. -/
theorem eq_filter_of_sublist {α : Type} {xs ys : List α} {p : α → Bool} (hnodup : xs.Nodup)
    (hsub : ys.Sublist xs) (hmem : ∀ x, x ∈ ys ↔ x ∈ xs ∧ p x = true) : ys = xs.filter p := by
  have hkept : ys.filter p = ys := List.filter_eq_self.mpr fun x hx => ((hmem x).mp hx).2
  have hinto : ys.Sublist (xs.filter p) := hkept ▸ hsub.filter p
  have honto : xs.filter p ⊆ ys := fun x hx => (hmem x).mpr (List.mem_filter.mp hx)
  exact hinto.eq_of_length_le (List.subperm_of_subset (hnodup.filter p) honto).length_le

/-- What is left of a computation without the wording of its faults. -/
theorem toOption_eq_some_iff {ε α : Type} {x : Except ε α} {a : α} :
    x.toOption = some a ↔ x = .ok a := by
  cases x with
  | error e => exact iff_of_false nofun nofun
  | ok b => rw [Except.toOption, Option.some_inj, Except.ok.injEq]

namespace Catalog

variable {catalog selected : Catalog} {names names' : List String}

/-- The names that a catalog has suites for. -/
def suiteNames (catalog : Catalog) : List String := catalog.suites.map (·.name.text)

/-- No suite is found just for the names that the catalog does not have. -/
theorem isNone_get?_iff (catalog : Catalog) (name : String) :
    (catalog.get? name).isNone = true ↔ name ∉ catalog.suiteNames := by
  simp [get?, suiteNames]

/-! ## What a selection answers -/

/-- A selection fails with the first name that the catalog does not have. -/
theorem select_eq_error_iff {fault : Fault} :
    catalog.select names = .error fault ↔ ∃ before name after,
      names = before ++ name :: after ∧ (∀ n ∈ before, n ∈ catalog.suiteNames) ∧
        name ∉ catalog.suiteNames ∧ fault = .unknownSuite name := by
  have hfirst : ∀ name, names.find? (fun n => (catalog.get? n).isNone) = some name ↔
      name ∉ catalog.suiteNames ∧
        ∃ before after, names = before ++ name :: after ∧ ∀ n ∈ before, n ∈ catalog.suiteNames := by
    intro name
    simp only [List.find?_eq_some_iff_append, isNone_get?_iff, Bool.not_eq_true',
      ← Bool.not_eq_true, not_not]
  rw [select]
  cases hfound : names.find? fun n => (catalog.get? n).isNone with
  | none =>
      refine iff_of_false nofun ?_
      rintro ⟨before, name, after, hnames, hbefore, hname, -⟩
      have hsome := (hfirst name).mpr ⟨hname, before, after, hnames, hbefore⟩
      exact nomatch hfound.symm.trans hsome
  | some unknown =>
      obtain ⟨hunknown, before, after, hnames, hbefore⟩ := (hfirst unknown).mp hfound
      constructor
      · rintro ⟨⟩
        exact ⟨before, unknown, after, hnames, hbefore, hunknown, rfl⟩
      · rintro ⟨before', name, after', hnames', hbefore', hname, rfl⟩
        have hsome := (hfirst name).mpr ⟨hname, before', after', hnames', hbefore'⟩
        rw [Option.some.inj (hfound.symm.trans hsome)]

/-- A selection succeeds if the catalog has all names, and keeps the named suites. -/
theorem select_eq_ok_iff :
    catalog.select names = .ok selected ↔
      (∀ name ∈ names, name ∈ catalog.suiteNames) ∧
        selected.suites = catalog.suites.filter fun s => names.contains s.name.text := by
  have hknown : names.find? (fun n => (catalog.get? n).isNone) = none ↔
      ∀ name ∈ names, name ∈ catalog.suiteNames := by
    rw [List.find?_eq_none]
    simp only [isNone_get?_iff, not_not]
  rw [select, ← hknown]
  cases names.find? fun n => (catalog.get? n).isNone with
  | some unknown => exact iff_of_false nofun nofun
  | none =>
      obtain ⟨suites⟩ := selected
      rw [Except.ok.injEq, mk.injEq, eq_comm]
      exact (and_iff_right rfl).symm

/-- A selection either succeeds or fails, by whether the catalog has all names. -/
theorem exists_select_eq_ok_iff :
    (∃ selected, catalog.select names = .ok selected) ↔ ∀ name ∈ names, name ∈ catalog.suiteNames := by
  constructor
  · rintro ⟨selected, hselected⟩
    exact (select_eq_ok_iff.mp hselected).1
  · intro hknown
    exact ⟨_, select_eq_ok_iff.mpr ⟨hknown, rfl⟩⟩

theorem exists_select_eq_error_iff :
    (∃ fault, catalog.select names = .error fault) ↔ ∃ name ∈ names, name ∉ catalog.suiteNames := by
  have hfails : (∃ fault, catalog.select names = .error fault)
      ↔ ¬ ∃ selected, catalog.select names = .ok selected := by
    cases catalog.select names with
    | error fault => exact iff_of_true ⟨fault, rfl⟩ nofun
    | ok selected => exact iff_of_false nofun (not_not.mpr ⟨selected, rfl⟩)
  rw [hfails, exists_select_eq_ok_iff]
  simp only [not_forall, exists_prop]

/-! ## What is selected -/

/-- **A SELECTION** by some names that a catalog has: of its suites, unchanged and in
    their order, just the named ones. -/
structure IsSelection (catalog : Catalog) (names : List String) (selected : Catalog) : Prop where
  known   : ∀ name ∈ names, name ∈ catalog.suiteNames
  inOrder : selected.suites.Sublist catalog.suites
  named   : ∀ suite, suite ∈ selected.suites ↔
    suite ∈ catalog.suites ∧ suite.name.text ∈ names

/-- If no two suites have one name, that is all there is to say of a selection. -/
theorem select_eq_ok_iff_isSelection (hnames : (catalog.suites.map (·.name)).Nodup) :
    catalog.select names = .ok selected ↔ IsSelection catalog names selected := by
  have hcontains : ∀ suite : Suite,
      names.contains suite.name.text = true ↔ suite.name.text ∈ names := fun _ =>
    List.contains_iff_mem
  rw [select_eq_ok_iff]
  constructor
  · rintro ⟨hknown, hsuites⟩
    refine ⟨hknown, hsuites ▸ List.filter_sublist, ?_⟩
    intro suite
    rw [hsuites, List.mem_filter, hcontains]
  · rintro ⟨hknown, hsub, hnamed⟩
    refine ⟨hknown, eq_filter_of_sublist hnames.of_map hsub ?_⟩
    intro suite
    rw [hnamed, hcontains]

namespace IsSelection

/-- Each requested name has one suite in the selection. -/
theorem existsUnique (h : IsSelection catalog names selected)
    (hnames : (catalog.suites.map (·.name)).Nodup) {name : String} (hname : name ∈ names) :
    ∃! suite, suite ∈ selected.suites ∧ suite.name.text = name := by
  obtain ⟨suite, hsuite, rfl⟩ := List.mem_map.mp (h.known name hname)
  refine ⟨suite, ⟨(h.named suite).mpr ⟨hsuite, hname⟩, rfl⟩, ?_⟩
  rintro other ⟨hother, htext⟩
  exact List.inj_on_of_nodup_map hnames (h.inOrder.subset hother) hsuite (Name.ext htext)

/-- What is selected has the requested names, and no others. -/
theorem mem_suiteNames_iff (h : IsSelection catalog names selected) {name : String} :
    name ∈ selected.suiteNames ↔ name ∈ names := by
  constructor
  · intro hname
    obtain ⟨suite, hsuite, rfl⟩ := List.mem_map.mp hname
    exact ((h.named suite).mp hsuite).2
  · intro hname
    obtain ⟨suite, hsuite, rfl⟩ := List.mem_map.mp (h.known name hname)
    exact List.mem_map.mpr ⟨suite, (h.named suite).mpr ⟨hsuite, hname⟩, rfl⟩

/-- Only which names are requested counts, not their order nor how often. -/
theorem congr (h : IsSelection catalog names selected) (hsame : ∀ n, n ∈ names' ↔ n ∈ names) :
    IsSelection catalog names' selected where
  known name hname := h.known name ((hsame name).mp hname)
  inOrder := h.inOrder
  named suite := by rw [h.named, hsame]

/-- A selection is its own selection by the same names. -/
theorem again (h : IsSelection catalog names selected) : IsSelection selected names selected where
  known _ hname := h.mem_suiteNames_iff.mpr hname
  inOrder := List.Sublist.refl _
  named suite := (and_iff_left_of_imp fun hsuite => ((h.named suite).mp hsuite).2).symm

/-- What is selected from a selection is selected from the whole catalog. -/
theorem trans (h : IsSelection catalog names selected) {selected' : Catalog}
    (h' : IsSelection selected names' selected') : IsSelection catalog names' selected' where
  known name hname := h.known name (h.mem_suiteNames_iff.mp (h'.known name hname))
  inOrder := h'.inOrder.trans h.inOrder
  named suite := by
    rw [h'.named, h.named, and_assoc]
    refine and_congr_right fun _ => and_iff_right_of_imp fun hname => ?_
    exact h.mem_suiteNames_iff.mp (h'.known _ hname)

/-- The suites of a selection have different names, as those of the catalog have. -/
theorem nodup_names (h : IsSelection catalog names selected)
    (hnames : (catalog.suites.map (·.name)).Nodup) : (selected.suites.map (·.name)).Nodup :=
  (h.inOrder.map _).nodup hnames

end IsSelection

/-! ## The laws -/

/-- **SELECTION** goes by the set of the requested names.  It fails just if the catalog
    does not have one of them, and with the first such name; otherwise the result has
    the suites of these names, one for each, as they are and in the order of the
    catalog.  Other requests with the same names succeed alike and give the same.  To
    select again by the same names changes nothing; to select by others from the result
    succeeds just if these were requested, and is to select by them at once. -/
theorem selection_is_by_set_of_names (hnames : (catalog.suites.map (·.name)).Nodup)
    (names : List String) :
    ((∃ fault, catalog.select names = .error fault) ↔ ∃ name ∈ names, name ∉ catalog.suiteNames)
    ∧ (∀ fault, catalog.select names = .error fault → ∃ before name after,
        names = before ++ name :: after ∧ (∀ n ∈ before, n ∈ catalog.suiteNames) ∧
          name ∉ catalog.suiteNames ∧ fault = .unknownSuite name)
    ∧ (∀ selected, catalog.select names = .ok selected ↔ IsSelection catalog names selected)
    ∧ (∀ selected, catalog.select names = .ok selected → ∀ name ∈ names,
        ∃! suite, suite ∈ selected.suites ∧ suite.name.text = name)
    ∧ (∀ names', (∀ n, n ∈ names' ↔ n ∈ names) →
        (catalog.select names').toOption = (catalog.select names).toOption)
    ∧ (∀ selected, catalog.select names = .ok selected → selected.select names = .ok selected)
    ∧ (∀ selected names', catalog.select names = .ok selected →
        ((∃ selected', selected.select names' = .ok selected') ↔ ∀ n ∈ names', n ∈ names)
        ∧ ∀ selected', selected.select names' = .ok selected' →
          catalog.select names' = .ok selected') := by
  have hok : ∀ names selected, catalog.select names = .ok selected ↔
      IsSelection catalog names selected := fun _ _ => select_eq_ok_iff_isSelection hnames
  have hselected : ∀ {selected}, IsSelection catalog names selected → ∀ names' selected',
      selected.select names' = .ok selected' ↔ IsSelection selected names' selected' :=
    fun h _ _ => select_eq_ok_iff_isSelection (h.nodup_names hnames)
  refine ⟨exists_select_eq_error_iff, fun _ => select_eq_error_iff.mp, hok names, ?_, ?_, ?_, ?_⟩
  · intro selected h name hname
    exact ((hok _ _).mp h).existsUnique hnames hname
  · intro names' hsame
    refine Option.ext fun selected => ?_
    rw [toOption_eq_some_iff, toOption_eq_some_iff, hok, hok]
    exact ⟨fun h => h.congr fun n => (hsame n).symm, fun h => h.congr hsame⟩
  · intro selected h
    have hselection := (hok _ _).mp h
    exact (hselected hselection _ _).mpr hselection.again
  · intro selected names' h
    have hselection := (hok _ _).mp h
    constructor
    · rw [exists_select_eq_ok_iff]
      simp only [hselection.mem_suiteNames_iff]
    · intro selected' h'
      exact (hok _ _).mpr (hselection.trans ((hselected hselection _ _).mp h'))

/-- Two of the built-in suites, asked for against their order and one of them twice:
    they come in order and once, and the third is not among them any more. -/
theorem selection_of_two_builtin :
    ((Catalog.builtin "bin").suites.map (·.name)).Nodup
    ∧ ∃ selected, (Catalog.builtin "bin").select ["set-skiplist-1m", "set-ll-1k", "set-skiplist-1m"]
        = .ok selected
      ∧ selected.suiteNames = ["set-ll-1k", "set-skiplist-1m"]
      ∧ (∃! suite, suite ∈ selected.suites ∧ suite.name.text = "set-skiplist-1m")
      ∧ (Catalog.builtin "bin").select ["set-ll-1k", "set-skiplist-1m"] = .ok selected
      ∧ selected.select ["set-skiplist-1m", "set-ll-1k", "set-skiplist-1m"] = .ok selected
      ∧ ¬ ∃ selected', selected.select ["set-tree-1m"] = .ok selected' := by
  have hnames : ((Catalog.builtin "bin").suites.map (·.name)).Nodup := by decide
  obtain ⟨-, -, -, hone, hsame, hagain, hfrom⟩ :=
    selection_is_by_set_of_names hnames ["set-skiplist-1m", "set-ll-1k", "set-skiplist-1m"]
  have hselected : (Catalog.builtin "bin").select ["set-skiplist-1m", "set-ll-1k", "set-skiplist-1m"]
      = .ok _ := rfl
  refine ⟨hnames, _, hselected, by decide, hone _ hselected _ (by decide), ?_,
    hagain _ hselected, ?_⟩
  · refine toOption_eq_some_iff.mp ((hsame _ fun n => ?_).trans (toOption_eq_some_iff.mpr hselected))
    simp only [List.mem_cons, List.not_mem_nil, or_false]
    exact ⟨fun h => h.symm.imp_right .inl, by rintro (h | h | h) <;> simp [h]⟩
  · rw [(hfrom _ ["set-tree-1m"] hselected).1]
    decide

end Catalog

end BenchSweep
