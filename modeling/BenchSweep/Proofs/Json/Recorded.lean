import BenchSweep.Proofs.Json.Decode
import BenchSweep.Proofs.Report.Object
import BenchSweep.Proofs.Text.Utf8

/-! # Recorded configurations and failures

    What a record says of a configuration or of a failure is read back as it was
    (`keys_and_failures_round_trip`), whatever characters its texts have.  Nothing else
    gets in that way: a JSON value is read as a configuration exactly if it gives two
    well-formed names, a thread count and a ratio that the settings would accept
    (`IsConfiguration`), in an object or in a list, and as the same one in either form. -/

namespace BenchSweep.Json

open Settings

/-- A JSON value that gives four parts which make up a configuration. -/
def IsConfiguration (v : Json) : Prop :=
  ∃ suite variant threads ratio,
    v.GivesParts (.text suite) (.text variant) (.natural threads) (.natural ratio) ∧
      WellNamed suite ∧ WellNamed variant ∧ (1 ≤ threads ∧ threads < 2 ^ 32) ∧ ratio ≤ 1000

/-- **THE BOUNDS** of a configuration are checked when it is decoded, and no others. -/
theorem exists_toKey_iff {v : Json} : (∃ key, toKey v = .ok key) ↔ v.IsConfiguration := by
  constructor
  · rintro ⟨key, hkey⟩
    have hthreads := (ThreadCount.exists_val_iff key.threads.val).mp ⟨key.threads, rfl⟩
    have hratio := (Permil.exists_val_iff key.ratio.val).mp ⟨key.ratio, rfl⟩
    exact ⟨_, _, _, _, toKey_eq_ok_iff.mp hkey, (isName_iff_wellNamed _).mp key.suite.valid,
      (isName_iff_wellNamed _).mp key.variant.valid, ⟨hthreads, key.threads.val.toNat_lt⟩, hratio⟩
  · rintro ⟨suite, variant, threads, ratio, hparts, hsuite, hvariant, ⟨hpos, hlt⟩, hle⟩
    have hthreads : (UInt32.ofNat threads).toNat = threads := UInt32.toNat_ofNat_of_lt' hlt
    have hratio : (UInt32.ofNat ratio).toNat = ratio :=
      UInt32.toNat_ofNat_of_lt' (Nat.lt_of_le_of_lt hle (by decide))
    obtain ⟨s, rfl⟩ := (Name.exists_text_iff .suite suite).mpr hsuite
    obtain ⟨v, rfl⟩ := (Name.exists_text_iff .variant variant).mpr hvariant
    obtain ⟨t, ht⟩ := (ThreadCount.exists_val_iff (UInt32.ofNat threads)).mpr (by rwa [hthreads])
    obtain ⟨r, hr⟩ := (Permil.exists_val_iff (UInt32.ofNat ratio)).mpr (by rwa [hratio])
    refine ⟨⟨s, v, t, r⟩, toKey_eq_ok_iff.mpr ?_⟩
    rwa [ht, hr, hthreads, hratio]

/-- What some fields give for a name is one value. -/
theorem Gives.iff_eq {fields : List (String × Json)} {name : String} {v w : Json}
    (h : Gives fields name v) : Gives fields name w ↔ v = w := by
  rw [Gives] at h
  rw [Gives, h]
  simp

/-- **BOTH FORMS** of the same four values are read alike. -/
theorem toKey_object_eq_toKey_list {fields : List (String × Json)}
    {suite variant threads ratio : Json}
    (h : (object fields).GivesParts suite variant threads ratio) (key : Key) :
    toKey (.object fields) = .ok key ↔ toKey (.list [suite, variant, threads, ratio]) = .ok key := by
  obtain ⟨hsuite, hvariant, hthreads, hratio⟩ := h
  rw [toKey_object_eq_ok_iff, toKey_list_eq_ok_iff, hsuite.iff_eq, hvariant.iff_eq,
    hthreads.iff_eq, hratio.iff_eq]
  simp

/-! ## Texts -/

theorem fieldsExact_ofKey (key : Key) : FieldsExact (ofKey key) := by
  have hword : ∀ n : UInt32, n.toNat < 2 ^ 64 := fun n => by have := n.toNat_lt; omega
  exact ⟨trivial, trivial, hword _, hword _, trivial⟩

/-- The compact text of a value is read as the value. -/
theorem readLine?_compact {v : Json} (hv : v.IsExact) :
    readLine? (Text.encodeUtf8 v.compact) = some v := by
  rw [readLine?, Text.validUtf8?_encodeUtf8, compact, String.toList_ofList]
  exact read?_chars hv

/-- **ROUND TRIP AND CHECKS.**  The text of a configuration or of a failure is read as the
    value that it was written for.  A JSON value is read as a configuration exactly if it
    gives the four parts of that configuration, and as some configuration exactly if it
    gives two well-formed names, a thread count and a ratio; an object and a list that give
    the same parts are read as the same one. -/
theorem keys_and_failures_round_trip :
    (∀ key : Key, ∃ v, readLine? (Text.encodeUtf8 (object (ofKey key)).compact) = some v
      ∧ toKey v = .ok key)
    ∧ (∀ failure : Failure, ∃ v, readLine? (Text.encodeUtf8 (ofFailure failure).compact) = some v
      ∧ toFailure v = .ok failure)
    ∧ (∀ v key, toKey v = .ok key ↔
        v.GivesParts (.text key.suite.text) (.text key.variant.text)
          (.natural key.threads.val.toNat) (.natural key.ratio.val.toNat))
    ∧ (∀ v, (∃ key, toKey v = .ok key) ↔ v.IsConfiguration)
    ∧ ∀ fields suite variant threads ratio,
        (object fields).GivesParts suite variant threads ratio → ∀ key,
          (toKey (.object fields) = .ok key ↔
            toKey (.list [suite, variant, threads, ratio]) = .ok key) := by
  refine ⟨?_, ?_, fun _ _ => toKey_eq_ok_iff, fun _ => exists_toKey_iff,
    fun _ _ _ _ _ => toKey_object_eq_toKey_list⟩
  · intro key
    have hkey : toKey (.object ([] ++ ofKey key ++ [])) = .ok key :=
      toKey_fields key (fun _ h => nomatch h) (fun _ h => nomatch h)
    rw [List.nil_append, List.append_nil] at hkey
    exact ⟨_, readLine?_compact (v := .object (ofKey key)) (fieldsExact_ofKey key), hkey⟩
  · intro failure
    exact ⟨_, readLine?_compact (isExact_ofFailure failure), toFailure_ofFailure failure⟩

/-- An object whose fields stand in another order, with one that is unknown, and the list
    of its parts. -/
theorem shuffled_object_read_as_list :
    let fields : List (String × Json) :=
      [("ratio", .natural 1000), ("note", .null), ("threads", .natural 4294967295),
        ("variant", .text "mh-orc"), ("suite", .text "set-ll-1k")]
    let items : List Json :=
      [.text "set-ll-1k", .text "mh-orc", .natural 4294967295, .natural 1000]
    (object fields).GivesParts (.text "set-ll-1k") (.text "mh-orc") (.natural 4294967295)
        (.natural 1000)
      ∧ ∃ key, toKey (.object fields) = .ok key ∧ toKey (.list items) = .ok key := by
  intro fields items
  obtain ⟨-, -, -, hchecked, hforms⟩ := keys_and_failures_round_trip
  have hparts : (object fields).GivesParts (.text "set-ll-1k") (.text "mh-orc")
      (.natural 4294967295) (.natural 1000) := ⟨rfl, rfl, rfl, rfl⟩
  have hvalid : (object fields).IsConfiguration :=
    ⟨_, _, _, _, hparts, (isName_iff_wellNamed _).mp (by decide),
      (isName_iff_wellNamed _).mp (by decide), ⟨by decide, by decide⟩, by decide⟩
  obtain ⟨key, hkey⟩ := (hchecked _).mpr hvalid
  exact ⟨hparts, key, hkey, (hforms _ _ _ _ _ hparts key).mp hkey⟩

end BenchSweep.Json
