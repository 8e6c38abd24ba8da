import BenchSweep.Proofs.Json.Decode
import BenchSweep.Proofs.Json.ReadBack
import BenchSweep.Report.Read

/-! # Records as objects

    The object of a record has no two fields of one name, nor has any object in it
    (`distinct_ofRecord`), and its numbers are of those that a reader keeps exactly
    (`isExact_ofRecord`).  The object of an aggregate is decoded as that aggregate
    (`toAggregate_ofRecord`), although its fields are those of a configuration, a
    measurement and the counts side by side, and failures are left out where there
    are none. -/

namespace BenchSweep

/-- The counts of an aggregate are 32-bit words. -/
def Aggregate.FitsWords (a : Aggregate) : Prop :=
  a.successes < 2 ^ 32 ∧ a.runs < 2 ^ 32

/-- The counts of a record are 32-bit words; a header counts nothing. -/
def Record.FitsWords : Record → Prop
  | .header _    => True
  | .aggregate a => a.FitsWords

namespace Json

/-! ## Field names -/

mutual

/-- No object in a value has two fields of one name. -/
def Distinct : Json → Prop
  | .list items => ItemsDistinct items
  | .object fs  => (fs.map (·.1)).Nodup ∧ FieldsDistinct fs
  | _           => True

/-- The same of every item. -/
def ItemsDistinct : List Json → Prop
  | []      => True
  | v :: vs => Distinct v ∧ ItemsDistinct vs

/-- The same of the value of every field. -/
def FieldsDistinct : List (String × Json) → Prop
  | []      => True
  | f :: fs => Distinct f.2 ∧ FieldsDistinct fs

end

theorem itemsDistinct_iff {items : List Json} : ItemsDistinct items ↔ ∀ v ∈ items, v.Distinct := by
  induction items with
  | nil => exact iff_of_true trivial (fun _ hv => nomatch hv)
  | cons v vs ih => rw [ItemsDistinct, ih, List.forall_mem_cons]

theorem fieldsDistinct_iff {fs : List (String × Json)} :
    FieldsDistinct fs ↔ ∀ f ∈ fs, f.2.Distinct := by
  induction fs with
  | nil => exact iff_of_true trivial (fun _ hf => nomatch hf)
  | cons f fs ih => rw [FieldsDistinct, ih, List.forall_mem_cons]

theorem itemsExact_iff {items : List Json} : ItemsExact items ↔ ∀ v ∈ items, v.IsExact := by
  induction items with
  | nil => exact iff_of_true trivial (fun _ hv => nomatch hv)
  | cons v vs ih => rw [ItemsExact, ih, List.forall_mem_cons]

theorem fieldsExact_iff {fs : List (String × Json)} : FieldsExact fs ↔ ∀ f ∈ fs, f.2.IsExact := by
  induction fs with
  | nil => exact iff_of_true trivial (fun _ hf => nomatch hf)
  | cons f fs ih => rw [FieldsExact, ih, List.forall_mem_cons]

/-- Among fields of different names, each is found by its own. -/
theorem find?_eq_some_of_mem {fs : List (String × Json)} (hnodup : (fs.map (·.1)).Nodup)
    {f : String × Json} (hf : f ∈ fs) : fs.find? (fun g => g.1 == f.1) = some f := by
  induction fs with
  | nil => exact nomatch hf
  | cons g gs ih =>
      obtain ⟨hg, hgs⟩ := List.nodup_cons.mp hnodup
      rcases List.mem_cons.mp hf with rfl | hf
      · exact List.find?_cons_of_pos (beq_self_eq_true f.1)
      · have hne : ¬ (g.1 == f.1) = true := fun h =>
          hg (List.mem_map.mpr ⟨f, hf, (eq_of_beq h).symm⟩)
        exact (List.find?_cons_of_neg (p := fun g : String × Json => g.1 == f.1) hne).trans (ih hgs hf)

theorem field?_of_mem {fs : List (String × Json)} (hnodup : (fs.map (·.1)).Nodup) {f : String × Json}
    (hf : f ∈ fs) : field? fs f.1 = some f.2 := by
  have hreverse : (fs.reverse.map (·.1)).Nodup := by
    rw [List.map_reverse]
    exact List.nodup_reverse.mpr hnodup
  rw [field?, find?_eq_some_of_mem hreverse (List.mem_reverse.mpr hf)]
  rfl

theorem field?_of_not_mem {fs : List (String × Json)} {name : String}
    (hname : name ∉ fs.map (·.1)) : field? fs name = none := by
  have hfind : fs.reverse.find? (fun g => g.1 == name) = none := by
    rw [List.find?_eq_none]
    intro f hf hsame
    exact hname (List.mem_map.mpr ⟨f, List.mem_reverse.mp hf, eq_of_beq hsame⟩)
  rw [field?, hfind]
  rfl

/-! ## Parts of a record -/

theorem isExact_ofFailure (failure : Failure) : (ofFailure failure).IsExact := by
  cases failure with
  | timeout limitMs => exact ⟨trivial, limitMs.toNat_lt, trivial⟩
  | _ => exact ⟨trivial, trivial, trivial⟩

theorem distinct_ofFailure (failure : Failure) : (ofFailure failure).Distinct := by
  have hreason : ["kind", "reason"].Nodup := by decide
  have hlimit : ["kind", "limit_ms"].Nodup := by decide
  have hstatus : ["kind", "status"].Nodup := by decide
  have hmarker : ["kind", "marker"].Nodup := by decide
  cases failure with
  | launch _      => exact ⟨hreason, trivial, trivial, trivial⟩
  | wait _        => exact ⟨hreason, trivial, trivial, trivial⟩
  | timeout _     => exact ⟨hlimit, trivial, trivial, trivial⟩
  | nonZeroExit _ => exact ⟨hstatus, trivial, trivial, trivial⟩
  | unparseable _ => exact ⟨hmarker, trivial, trivial, trivial⟩

theorem isExact_ofDimensions (dims : Dimensions) : (ofDimensions dims).IsExact := by
  have hword : ∀ n : UInt32, n.toNat < 2 ^ 64 := fun n => by have := n.toNat_lt; omega
  refine ⟨dims.duration.secs.toNat_lt, hword _, ?_, ?_, trivial⟩
  · show ItemsExact (dims.threads.map _)
    rw [itemsExact_iff, List.forall_mem_map]
    exact fun t _ => hword t.val
  · show ItemsExact (dims.ratios.map _)
    rw [itemsExact_iff, List.forall_mem_map]
    exact fun r _ => hword r.val

theorem distinct_ofDimensions (dims : Dimensions) : (ofDimensions dims).Distinct := by
  have hnames : ["duration", "runs", "threads", "ratios"].Nodup := by decide
  refine ⟨hnames, trivial, trivial, ?_, ?_, trivial⟩
  · show ItemsDistinct (dims.threads.map _)
    rw [itemsDistinct_iff, List.forall_mem_map]
    exact fun _ _ => trivial
  · show ItemsDistinct (dims.ratios.map _)
    rw [itemsDistinct_iff, List.forall_mem_map]
    exact fun _ _ => trivial

theorem isExact_ofHost (h : Host) : (ofHost h).IsExact := by
  refine ⟨trivial, trivial, ?_, trivial, h.logicalCpus.toNat_lt, h.memoryBytes.toNat_lt, trivial⟩
  cases h.kernel with
  | none => trivial
  | some k => trivial

theorem distinct_ofHost (h : Host) : (ofHost h).Distinct := by
  have hnames : ["hostname", "os", "kernel", "cpu_model", "logical_cpus", "memory_bytes"].Nodup := by
    decide
  refine ⟨hnames, trivial, trivial, ?_, trivial, trivial, trivial, trivial⟩
  cases h.kernel with
  | none => trivial
  | some k => trivial

/-! ## Aggregates -/

theorem fieldsExact_append {fs gs : List (String × Json)} :
    FieldsExact (fs ++ gs) ↔ FieldsExact fs ∧ FieldsExact gs := by
  simp only [fieldsExact_iff, List.forall_mem_append]

theorem fieldsDistinct_append {fs gs : List (String × Json)} :
    FieldsDistinct (fs ++ gs) ↔ FieldsDistinct fs ∧ FieldsDistinct gs := by
  simp only [fieldsDistinct_iff, List.forall_mem_append]

/-- The field of the failures, if there is one, is a list of their objects. -/
theorem forall_mem_failures (a : Aggregate) {p : Json → Prop}
    (hp : p (.list (a.failures.map ofFailure))) :
    ∀ f ∈ (if a.failures.isEmpty then [] else [("failures", Json.list (a.failures.map ofFailure))]),
      p f.2 := by
  intro f hf
  split at hf
  · exact nomatch hf
  · rw [List.mem_singleton.mp hf]
    exact hp

theorem fieldsExact_ofAggregate {a : Aggregate} (ha : a.FitsWords) :
    FieldsExact (ofAggregate a) := by
  have hword : ∀ n : UInt32, n.toNat < 2 ^ 64 := fun n => by have := n.toNat_lt; omega
  have hmeasurement : FieldsExact (ofMeasurement a.measurement) := by
    cases a.measurement with
    | median s =>
        exact ⟨trivial, s.median.toNat_lt, s.min.toNat_lt, s.max.toNat_lt, s.spread.toNat_lt, trivial⟩
    | failed => exact ⟨trivial, trivial⟩
  have hcounts : a.successes < 2 ^ 64 ∧ a.runs < 2 ^ 64 := by
    obtain ⟨hsuccesses, hruns⟩ := ha
    omega
  have hfailures : (Json.list (a.failures.map ofFailure)).IsExact := by
    show ItemsExact (a.failures.map ofFailure)
    rw [itemsExact_iff, List.forall_mem_map]
    exact fun failure _ => isExact_ofFailure failure
  rw [ofAggregate, fieldsExact_append, fieldsExact_append, fieldsExact_append]
  exact ⟨⟨⟨⟨trivial, trivial, hword _, hword _, trivial⟩, hmeasurement⟩,
    hcounts.1, hcounts.2, trivial⟩, fieldsExact_iff.mpr (forall_mem_failures a hfailures)⟩

theorem fieldsDistinct_ofAggregate (a : Aggregate) : FieldsDistinct (ofAggregate a) := by
  have hmeasurement : FieldsDistinct (ofMeasurement a.measurement) := by
    cases a.measurement with
    | median s => exact ⟨trivial, trivial, trivial, trivial, trivial, trivial⟩
    | failed => exact ⟨trivial, trivial⟩
  have hfailures : (Json.list (a.failures.map ofFailure)).Distinct := by
    show ItemsDistinct (a.failures.map ofFailure)
    rw [itemsDistinct_iff, List.forall_mem_map]
    exact fun failure _ => distinct_ofFailure failure
  rw [ofAggregate, fieldsDistinct_append, fieldsDistinct_append, fieldsDistinct_append]
  exact ⟨⟨⟨⟨trivial, trivial, trivial, trivial, trivial⟩, hmeasurement⟩,
    trivial, trivial, trivial⟩, fieldsDistinct_iff.mpr (forall_mem_failures a hfailures)⟩

/-- The names that the fields of a measurement can have. -/
def measurementNames : List String := ["status", "median", "min", "max", "spread_pct"]

theorem names_ofMeasurement (m : Measurement) :
    ((ofMeasurement m).map (·.1)).Sublist measurementNames := by
  cases m with
  | median s => exact List.Sublist.refl _
  | failed => exact List.singleton_sublist.mpr List.mem_cons_self

/-- The names that the fields of an aggregate have before its failures. -/
def countedNames : List String := keyNames ++ measurementNames ++ ["successes", "runs"]

theorem names_ofAggregate (a : Aggregate) :
    ((ofAggregate a).map (·.1)).Sublist
      (countedNames ++ if a.failures.isEmpty then [] else ["failures"]) := by
  have hfailures : (if a.failures.isEmpty then []
      else [("failures", Json.list (a.failures.map ofFailure))]).map (·.1)
        = if a.failures.isEmpty then [] else ["failures"] := by
    split
    · rfl
    · rfl
  rw [ofAggregate, List.map_append, List.map_append, List.map_append, hfailures]
  exact (((List.Sublist.refl _).append (names_ofMeasurement _)).append
    (List.Sublist.refl _)).append (List.Sublist.refl _)

/-- The parts of an aggregate's object bring in no field name twice, nor that of its
    kind. -/
theorem nodup_names (a : Aggregate) :
    ((("record", Json.text "aggregate") :: ofAggregate a).map (·.1)).Nodup := by
  have hnames : ∀ none : Bool,
      ("record" :: (countedNames ++ if none then [] else ["failures"])).Nodup := by decide
  exact (hnames _).sublist ((names_ofAggregate a).cons_cons _)

/-! ## Records -/

/-- **NUMBERS** in the object of a record are read exactly. -/
theorem isExact_ofRecord {r : Record} (hr : r.FitsWords) : (ofRecord r).IsExact := by
  cases r with
  | header h =>
      refine ⟨trivial, trivial, trivial, isExact_ofHost _, isExact_ofDimensions _, ?_, trivial⟩
      show ItemsExact (h.suites.map _)
      rw [itemsExact_iff, List.forall_mem_map]
      exact fun _ _ => trivial
  | aggregate a => exact ⟨trivial, fieldsExact_ofAggregate hr⟩

/-- **NAMES** of fields are not repeated in the object of a record, nor in those that
    it holds. -/
theorem distinct_ofRecord (r : Record) : (ofRecord r).Distinct := by
  cases r with
  | header h =>
      have hnames : ["record", "tool_version", "started_at", "host", "dimensions", "suites"].Nodup :=
        by decide
      refine ⟨hnames, trivial, trivial, trivial, distinct_ofHost _, distinct_ofDimensions _, ?_,
        trivial⟩
      show ItemsDistinct (h.suites.map _)
      rw [itemsDistinct_iff, List.forall_mem_map]
      exact fun _ _ => trivial
  | aggregate a => exact ⟨nodup_names a, trivial, fieldsDistinct_ofAggregate a⟩

/-! ## Decoding -/

theorem toWord32_natural {n : Nat} (hn : n < 2 ^ 32) :
    toWord32 (.natural n) = .ok (UInt32.ofNat n) := by
  rw [toWord32, naturalBelow, if_pos hn]
  rfl

theorem mapM_toFailure (failures : List Failure) :
    (failures.map ofFailure).mapM toFailure = .ok failures := by
  induction failures with
  | nil => rfl
  | cons f fs ih =>
      rw [List.map_cons, List.mapM_cons, toFailure_ofFailure, ih]
      rfl

/-- A step that succeeds goes on with its result. -/
theorem ok_bind {ε α β : Type} (x : α) (f : α → Except ε β) : (Except.ok x >>= f) = f x := rfl

/-- A measurement is decoded from its fields, wherever they are found. -/
theorem toMeasurement_ofMeasurement {fields : List (String × Json)} {m : Measurement}
    (hfields : ∀ f ∈ ofMeasurement m, requireField fields f.1 = .ok f.2) :
    toMeasurement fields = .ok m := by
  cases m with
  | failed =>
      have hstatus : requireField fields "status" = .ok (.text "failed") :=
        hfields ("status", .text "failed") List.mem_cons_self
      rw [toMeasurement, hstatus]
      rfl
  | median s =>
      simp only [ofMeasurement, List.forall_mem_cons] at hfields
      obtain ⟨hstatus, hmedian, hmin, hmax, hspread, -⟩ := hfields
      rw [toMeasurement, hstatus]
      simp only [ok_bind, toText, hmedian, hmin, hmax, hspread, toWord64_toNat]
      rfl

theorem toFailures_ofAggregate (a : Aggregate) :
    toFailures (field? (("record", Json.text "aggregate") :: ofAggregate a) "failures")
      = .ok a.failures := by
  cases hfailures : a.failures with
  | nil =>
      have hnone : field? (("record", Json.text "aggregate") :: ofAggregate a) "failures" = none := by
        have hnames := (names_ofAggregate a).cons_cons "record"
        rw [hfailures] at hnames
        have hother : "failures" ∉ "record" :: (countedNames ++ []) := by decide
        exact field?_of_not_mem fun h => hother (hnames.subset h)
      rw [hnone]
      rfl
  | cons f fs =>
      have hmem : ("failures", Json.list (a.failures.map ofFailure))
          ∈ ("record", Json.text "aggregate") :: ofAggregate a := by
        rw [ofAggregate, hfailures]
        exact List.mem_cons_of_mem _ (List.mem_append_right _ List.mem_cons_self)
      rw [field?_of_mem (nodup_names a) hmem, ← hfailures]
      exact mapM_toFailure a.failures

/-- The configuration of an aggregate is decoded from among all fields. -/
theorem toKey_ofAggregate (a : Aggregate) :
    toKey (.object (("record", Json.text "aggregate") :: ofAggregate a)) = .ok a.key := by
  have hfields : ∃ after, ("record", Json.text "aggregate") :: ofAggregate a
      = [("record", Json.text "aggregate")] ++ ofKey a.key ++ after := by
    rw [ofAggregate, List.append_assoc, List.append_assoc]
    exact ⟨_, rfl⟩
  obtain ⟨after, hfields⟩ := hfields
  have hbefore : ∀ f ∈ [("record", Json.text "aggregate")], f.1 ∉ keyNames := by
    rw [List.forall_mem_singleton]
    decide
  have hafter : ∀ f ∈ after, f.1 ∉ keyNames := by
    have hnodup := nodup_names a
    rw [hfields, List.map_append] at hnodup
    intro f hf hkey
    exact (List.nodup_append.mp hnodup).2.2 f.1 (List.mem_cons_of_mem _ hkey) f.1
      (List.mem_map_of_mem hf) rfl
  rw [hfields]
  exact toKey_fields a.key hbefore hafter

/-- **AN AGGREGATE** is decoded from its object. -/
theorem toAggregate_ofRecord {a : Aggregate} (ha : a.FitsWords) :
    toAggregate (ofRecord (.aggregate a)) = .ok a := by
  have hfield : ∀ f ∈ ("record", Json.text "aggregate") :: ofAggregate a,
      requireField (("record", Json.text "aggregate") :: ofAggregate a) f.1 = .ok f.2 := by
    intro f hf
    rw [requireField, field?_of_mem (nodup_names a) hf]
    rfl
  have hkey := toKey_ofAggregate a
  have hmeasurement := toMeasurement_ofMeasurement (m := a.measurement) fun f hf =>
    hfield f (by simp [ofAggregate, hf])
  have hrecord := hfield ("record", .text "aggregate") List.mem_cons_self
  have hsuccesses := hfield ("successes", .natural a.successes) (by simp [ofAggregate])
  have hruns := hfield ("runs", .natural a.runs) (by simp [ofAggregate])
  rw [ofRecord, toAggregate]
  simp only [hrecord, ok_bind, toText, hkey, hmeasurement, hsuccesses, hruns,
    toWord32_natural ha.1, toWord32_natural ha.2, toFailures_ofAggregate,
    UInt32.toNat_ofNat_of_lt' ha.1, UInt32.toNat_ofNat_of_lt' ha.2]
  rfl

end Json

end BenchSweep
