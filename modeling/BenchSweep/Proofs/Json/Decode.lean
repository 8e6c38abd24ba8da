import BenchSweep.Json.Decode
import BenchSweep.Proofs.Settings.Criterion

/-! # What decoding accepts

    Every decoder of a scalar accepts exactly one JSON value for each value of its type,
    the one that this is encoded as.  A configuration is decoded exactly from what gives
    these values for its four parts (`toKey_eq_ok_iff`): an object that has each of the
    four fields once, among others and in any order, or the list of the four.  So
    configurations and failures are decoded as the values that they were encoded from
    (`toKey_fields`, `toFailure_ofFailure`). -/

namespace BenchSweep.Json

/-- A function of its result gives a computation no other success. -/
theorem map_eq_ok_iff {ε α β : Type} {f : α → β} {x : Except ε α} {b : β} :
    x.map f = .ok b ↔ ∃ a, x = .ok a ∧ f a = b := by
  cases x with
  | error e => simp [Except.map]
  | ok a => simp [Except.map]

/-! ## Scalars -/

theorem naturalBelow_eq_ok_iff {bound n : Nat} {expected : String} {v : Json} :
    naturalBelow bound expected v = .ok n ↔ v = .natural n ∧ n < bound := by
  cases v with
  | natural m =>
      rw [naturalBelow, Json.natural.injEq]
      by_cases hm : m < bound
      · rw [if_pos hm, Except.ok.injEq]
        exact ⟨fun h => ⟨h, h ▸ hm⟩, fun h => h.1⟩
      · rw [if_neg hm]
        exact ⟨nofun, fun h => absurd (h.1 ▸ h.2) hm⟩
  | _ => simp [naturalBelow]

theorem toWord32_eq_ok_iff {v : Json} {n : UInt32} :
    toWord32 v = .ok n ↔ v = .natural n.toNat := by
  rw [toWord32, map_eq_ok_iff]
  constructor
  · rintro ⟨m, hm, rfl⟩
    obtain ⟨rfl, hlt⟩ := naturalBelow_eq_ok_iff.mp hm
    rw [UInt32.toNat_ofNat_of_lt' hlt]
  · rintro rfl
    exact ⟨n.toNat, naturalBelow_eq_ok_iff.mpr ⟨rfl, n.toNat_lt⟩, UInt32.ofNat_toNat⟩

theorem toWord64_eq_ok_iff {v : Json} {n : UInt64} :
    toWord64 v = .ok n ↔ v = .natural n.toNat := by
  rw [toWord64, map_eq_ok_iff]
  constructor
  · rintro ⟨m, hm, rfl⟩
    obtain ⟨rfl, hlt⟩ := naturalBelow_eq_ok_iff.mp hm
    rw [UInt64.toNat_ofNat_of_lt' hlt]
  · rintro rfl
    exact ⟨n.toNat, naturalBelow_eq_ok_iff.mpr ⟨rfl, n.toNat_lt⟩, UInt64.ofNat_toNat⟩

theorem toText_eq_ok_iff {v : Json} {s : String} : toText v = .ok s ↔ v = .text s := by
  cases v with
  | text t => rw [toText, Except.ok.injEq, Json.text.injEq]
  | _ => simp [toText]

theorem toName_eq_ok_iff {role : Role} {v : Json} {name : Name role} :
    toName role v = .ok name ↔ v = .text name.text := by
  simp only [toName, bind_eq_ok_iff, toText_eq_ok_iff, mapError_eq_ok_iff,
    Name.ofString_eq_ok_iff]
  exact ⟨fun ⟨_, hv, hname⟩ => hname ▸ hv, fun hv => ⟨_, hv, rfl⟩⟩

theorem toThreadCount_eq_ok_iff {v : Json} {t : ThreadCount} :
    toThreadCount v = .ok t ↔ v = .natural t.val.toNat := by
  simp only [toThreadCount, bind_eq_ok_iff, toWord32_eq_ok_iff, mapError_eq_ok_iff,
    ThreadCount.ofWord_eq_ok_iff]
  exact ⟨fun ⟨_, hv, ht⟩ => ht ▸ hv, fun hv => ⟨_, hv, rfl⟩⟩

theorem toPermil_eq_ok_iff {v : Json} {r : Permil} :
    toPermil v = .ok r ↔ v = .natural r.val.toNat := by
  simp only [toPermil, bind_eq_ok_iff, toWord32_eq_ok_iff, mapError_eq_ok_iff,
    Permil.ofWord_eq_ok_iff]
  exact ⟨fun ⟨_, hv, hr⟩ => hr ▸ hv, fun hv => ⟨_, hv, rfl⟩⟩

theorem toWord64_toNat (n : UInt64) : toWord64 (.natural n.toNat) = .ok n :=
  toWord64_eq_ok_iff.mpr rfl

/-! ## Fields that may be given once -/

/-- Some fields give a value for a name, and no other for it. -/
def Gives (fields : List (String × Json)) (name : String) (value : Json) : Prop :=
  fields.filter (·.1 = name) = [(name, value)]

theorem readOnce_eq_ok_iff {α : Type} {name : String} {read : Json → Except Mismatch α}
    {v : Json} {part part' : Option α} :
    readOnce name read v part = .ok part' ↔
      part = none ∧ ∃ a, read v = .ok a ∧ some a = part' := by
  cases part with
  | some a => simp [readOnce]
  | none => simp [readOnce, map_eq_ok_iff]

variable {α : Type} {name : String} {read : Json → Except Mismatch α}

/-- After the field of a name has been read there may be no other. -/
theorem foldlM_readPart_some {fields : List (String × Json)} {a : α} {part : Option α} :
    fields.foldlM (readPart name read) (some a) = .ok part ↔
      fields.filter (·.1 = name) = [] ∧ some a = part := by
  induction fields with
  | nil => simp [pure, Except.pure]
  | cons f fs ih =>
      rw [List.foldlM_cons, bind_eq_ok_iff]
      by_cases hname : f.1 = name
      · simp [readPart, hname, readOnce_eq_ok_iff]
      · rw [List.filter_cons_of_neg (by simpa using hname), ← ih]
        simp [readPart, hname]

/-- **A FIELD** is read from the only value that is given for its name. -/
theorem readField?_eq_ok_some_iff {fields : List (String × Json)} {a : α} :
    readField? fields name read = .ok (some a) ↔
      ∃ v, Gives fields name v ∧ read v = .ok a := by
  rw [readField?]
  induction fields with
  | nil => simp [pure, Except.pure, Gives]
  | cons f fs ih =>
      obtain ⟨fname, v⟩ := f
      rw [List.foldlM_cons, bind_eq_ok_iff]
      by_cases hname : fname = name
      · subst hname
        simp only [readPart, if_true, readOnce_eq_ok_iff, Gives, true_and]
        rw [List.filter_cons_of_pos (by simp)]
        constructor
        · rintro ⟨_, ⟨b, hb, rfl⟩, hrest⟩
          obtain ⟨hnone, heq⟩ := foldlM_readPart_some.mp hrest
          obtain rfl := Option.some.inj heq
          exact ⟨v, by rw [hnone], hb⟩
        · rintro ⟨w, hw, hread⟩
          obtain ⟨heq, hnone⟩ := List.cons.inj hw
          obtain ⟨-, rfl⟩ := Prod.mk.inj heq
          exact ⟨_, ⟨a, hread, rfl⟩, foldlM_readPart_some.mpr ⟨hnone, rfl⟩⟩
      · have hgives : ∀ w, Gives ((fname, v) :: fs) name w ↔ Gives fs name w := by
          intro w
          rw [Gives, Gives, List.filter_cons_of_neg (by simpa using hname)]
        simp only [hgives, ← ih, readPart, if_neg hname]
        simp

/-! ## Configurations -/

/-- The names of the fields of a configuration. -/
def keyNames : List String := ["suite", "variant", "threads", "ratio"]

/-- **ONE FIELD** of a configuration is read into the part of its name. -/
theorem read_eq_ok_iff {parts parts' : KeyParts} {f : String × Json} :
    parts.read f = .ok parts' ↔
      readPart "suite" (toName .suite) parts.suite? f = .ok parts'.suite? ∧
      readPart "variant" (toName .variant) parts.variant? f = .ok parts'.variant? ∧
      readPart "threads" toThreadCount parts.threads? f = .ok parts'.threads? ∧
      readPart "ratio" toPermil parts.ratio? f = .ok parts'.ratio? := by
  obtain ⟨s, v, t, r⟩ := parts
  obtain ⟨s', v', t', r'⟩ := parts'
  unfold KeyParts.read
  split
  · simp [readPart, bind_eq_ok_iff, pure, Except.pure]
  · simp [readPart, bind_eq_ok_iff, pure, Except.pure, and_left_comm]
  · simp [readPart, bind_eq_ok_iff, pure, Except.pure, and_left_comm]
  · simp [readPart, bind_eq_ok_iff, pure, Except.pure, and_left_comm]
  · rename_i hsuite hvariant hthreads hratio
    have hother : f.1 ≠ "suite" ∧ f.1 ≠ "variant" ∧ f.1 ≠ "threads" ∧ f.1 ≠ "ratio" :=
      ⟨fun h => hsuite f.2 (Prod.ext h rfl), fun h => hvariant f.2 (Prod.ext h rfl),
        fun h => hthreads f.2 (Prod.ext h rfl), fun h => hratio f.2 (Prod.ext h rfl)⟩
    simp [readPart, hother]

/-- **ALL FIELDS** of a configuration are read for each part on its own. -/
theorem foldlM_read_eq_ok_iff {fields : List (String × Json)} {parts parts' : KeyParts} :
    fields.foldlM KeyParts.read parts = .ok parts' ↔
      fields.foldlM (readPart "suite" (toName .suite)) parts.suite? = .ok parts'.suite? ∧
      fields.foldlM (readPart "variant" (toName .variant)) parts.variant? = .ok parts'.variant? ∧
      fields.foldlM (readPart "threads" toThreadCount) parts.threads? = .ok parts'.threads? ∧
      fields.foldlM (readPart "ratio" toPermil) parts.ratio? = .ok parts'.ratio? := by
  induction fields generalizing parts with
  | nil =>
      obtain ⟨s, v, t, r⟩ := parts
      obtain ⟨s', v', t', r'⟩ := parts'
      simp [pure, Except.pure]
  | cons f fs ih =>
      simp only [List.foldlM_cons, bind_eq_ok_iff, ih, read_eq_ok_iff]
      constructor
      · rintro ⟨mid, ⟨hs, hv, ht, hr⟩, hs', hv', ht', hr'⟩
        exact ⟨⟨_, hs, hs'⟩, ⟨_, hv, hv'⟩, ⟨_, ht, ht'⟩, ⟨_, hr, hr'⟩⟩
      · rintro ⟨⟨s, hs, hs'⟩, ⟨v, hv, hv'⟩, ⟨t, ht, ht'⟩, ⟨r, hr, hr'⟩⟩
        exact ⟨⟨s, v, t, r⟩, ⟨hs, hv, ht, hr⟩, hs', hv', ht', hr'⟩

theorem require_eq_ok_iff {part : Option α} {a : α} :
    require name part = .ok a ↔ part = some a := by
  cases part with
  | none => simp [require]
  | some b => simp [require]

theorem item_eq_ok_iff {items : List Json} {i : Nat} {expected : String} {v : Json} :
    item items i expected = .ok v ↔ items[i]? = some v := by
  rw [item]
  cases items[i]? with
  | none => simp
  | some w => simp

theorem finish_eq_ok_iff {parts : KeyParts} {key : Key} :
    parts.finish = .ok key ↔
      parts = ⟨some key.suite, some key.variant, some key.threads, some key.ratio⟩ := by
  obtain ⟨s, v, t, r⟩ := parts
  simp only [KeyParts.finish, bind_eq_ok_iff, require_eq_ok_iff, pure, Except.pure,
    Except.ok.injEq, KeyParts.mk.injEq]
  constructor
  · rintro ⟨_, rfl, _, rfl, _, rfl, _, rfl, rfl⟩
    exact ⟨rfl, rfl, rfl, rfl⟩
  · rintro ⟨rfl, rfl, rfl, rfl⟩
    exact ⟨_, rfl, _, rfl, _, rfl, _, rfl, rfl⟩

/-- The values that a JSON value gives for the four parts of a configuration: those
    of its fields, or its four items. -/
def GivesParts : Json → (suite variant threads ratio : Json) → Prop
  | .object fields, suite, variant, threads, ratio =>
      Gives fields "suite" suite ∧ Gives fields "variant" variant ∧
        Gives fields "threads" threads ∧ Gives fields "ratio" ratio
  | .list items, suite, variant, threads, ratio => items = [suite, variant, threads, ratio]
  | _, _, _, _, _ => False

theorem toKey_object_eq_ok_iff {fields : List (String × Json)} {key : Key} :
    toKey (.object fields) = .ok key ↔
      Gives fields "suite" (.text key.suite.text) ∧
      Gives fields "variant" (.text key.variant.text) ∧
      Gives fields "threads" (.natural key.threads.val.toNat) ∧
      Gives fields "ratio" (.natural key.ratio.val.toNat) := by
  -- the fold over the parts is four folds, and each is the reading of one field
  simp only [toKey, bind_eq_ok_iff, finish_eq_ok_iff, exists_eq_right, foldlM_read_eq_ok_iff]
  show readField? fields "suite" _ = _ ∧ readField? fields "variant" _ = _ ∧
    readField? fields "threads" _ = _ ∧ readField? fields "ratio" _ = _ ↔ _
  simp only [readField?_eq_ok_some_iff, toName_eq_ok_iff, toThreadCount_eq_ok_iff,
    toPermil_eq_ok_iff, exists_eq_right]

/-- A list of four items, one after the other. -/
theorem eq_four_iff {items : List Json} {a b c d : Json} :
    items = [a, b, c, d] ↔
      items[0]? = some a ∧ items[1]? = some b ∧ items[2]? = some c ∧ items[3]? = some d ∧
        items.length ≤ 4 := by
  constructor
  · rintro rfl
    exact ⟨rfl, rfl, rfl, rfl, Nat.le_refl 4⟩
  · rintro ⟨ha, hb, hc, hd, hlength⟩
    refine List.ext_getElem? fun i => ?_
    match i with
    | 0 => exact ha
    | 1 => exact hb
    | 2 => exact hc
    | 3 => exact hd
    | i + 4 =>
        have hnone : items[i + 4]? = none := List.getElem?_eq_none (by omega)
        rw [hnone]
        rfl

theorem toKey_list_eq_ok_iff {items : List Json} {key : Key} :
    toKey (.list items) = .ok key ↔
      items = [.text key.suite.text, .text key.variant.text,
        .natural key.threads.val.toNat, .natural key.ratio.val.toNat] := by
  simp only [toKey, bind_eq_ok_iff, item_eq_ok_iff, toName_eq_ok_iff, toThreadCount_eq_ok_iff,
    toPermil_eq_ok_iff, eq_four_iff]
  constructor
  · rintro ⟨_, hs, _, rfl, _, hv, _, rfl, _, ht, _, rfl, _, hr, _, rfl, hkey⟩
    split at hkey
    · exact nomatch hkey
    · rename_i hlength
      obtain rfl := Except.ok.inj hkey
      exact ⟨hs, hv, ht, hr, Nat.le_of_not_lt hlength⟩
  · rintro ⟨hs, hv, ht, hr, hlength⟩
    refine ⟨_, hs, _, rfl, _, hv, _, rfl, _, ht, _, rfl, _, hr, _, rfl, ?_⟩
    rw [if_neg (Nat.not_lt_of_le hlength)]
    rfl

/-- **A CONFIGURATION** is decoded exactly from what gives its parts. -/
theorem toKey_eq_ok_iff {v : Json} {key : Key} :
    toKey v = .ok key ↔
      v.GivesParts (.text key.suite.text) (.text key.variant.text)
        (.natural key.threads.val.toNat) (.natural key.ratio.val.toNat) := by
  cases v with
  | object fields => exact toKey_object_eq_ok_iff
  | list items => exact toKey_list_eq_ok_iff
  | _ => exact ⟨nofun, nofun⟩

/-- The fields of a configuration, wherever they stand among others. -/
theorem toKey_fields (key : Key) {before after : List (String × Json)}
    (hbefore : ∀ f ∈ before, f.1 ∉ keyNames) (hafter : ∀ f ∈ after, f.1 ∉ keyNames) :
    toKey (.object (before ++ ofKey key ++ after)) = .ok key := by
  have hnone : ∀ {fs : List (String × Json)}, (∀ f ∈ fs, f.1 ∉ keyNames) → ∀ name ∈ keyNames,
      fs.filter (·.1 = name) = [] := by
    intro fs hfs name hname
    rw [List.filter_eq_nil_iff]
    intro f hf hsame
    exact hfs f hf (of_decide_eq_true hsame ▸ hname)
  have honly : ∀ name ∈ keyNames, (before ++ ofKey key ++ after).filter (·.1 = name)
      = (ofKey key).filter (·.1 = name) := by
    intro name hname
    rw [List.filter_append, List.filter_append, hnone hbefore name hname,
      hnone hafter name hname, List.nil_append, List.append_nil]
  rw [toKey_object_eq_ok_iff]
  exact ⟨(honly "suite" (by decide)).trans rfl, (honly "variant" (by decide)).trans rfl,
    (honly "threads" (by decide)).trans rfl, (honly "ratio" (by decide)).trans rfl⟩

/-! ## Failures -/

/-- The fields that a failure is decoded from: its kind, and what the kind asks for. -/
theorem toFailure_object_eq_ok_iff {fields : List (String × Json)} {failure : Failure} :
    toFailure (.object fields) = .ok failure ↔
      ∃ kind v, Gives fields "kind" v ∧ FailureKind.read v = .ok kind ∧
        ∃ w, Gives fields kind.detail w ∧ kind.failure w = .ok failure := by
  simp only [toFailure, bind_eq_ok_iff, require_eq_ok_iff, exists_eq_right,
    readField?_eq_ok_some_iff]
  constructor
  · rintro ⟨_, hread, kind, rfl, w, hw, hfailure⟩
    obtain ⟨v, hv, hkind⟩ := readField?_eq_ok_some_iff.mp hread
    exact ⟨kind, v, hv, hkind, w, hw, hfailure⟩
  · rintro ⟨kind, v, hv, hkind, w, hw, hfailure⟩
    exact ⟨_, readField?_eq_ok_some_iff.mpr ⟨v, hv, hkind⟩, kind, rfl, w, hw, hfailure⟩

/-- **A FAILURE** is decoded from its object. -/
theorem toFailure_ofFailure (failure : Failure) : toFailure (ofFailure failure) = .ok failure := by
  refine toFailure_object_eq_ok_iff.mpr ?_
  cases failure with
  | launch reason => exact ⟨.launch, _, rfl, rfl, .text reason, rfl, rfl⟩
  | wait reason => exact ⟨.wait, _, rfl, rfl, .text reason, rfl, rfl⟩
  | timeout limitMs =>
      refine ⟨.timeout, _, rfl, rfl, .natural limitMs.toNat, rfl, ?_⟩
      rw [FailureKind.failure, toWord64_toNat]
      rfl
  | nonZeroExit status => exact ⟨.nonZeroExit, _, rfl, rfl, .text status, rfl, rfl⟩
  | unparseable marker => exact ⟨.unparseable, _, rfl, rfl, .text marker, rfl, rfl⟩

end BenchSweep.Json
