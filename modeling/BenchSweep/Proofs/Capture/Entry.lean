import BenchSweep.Proofs.Capture.Path
import BenchSweep.Proofs.Settings.Criterion
import BenchSweep.Proofs.Text.Utf8

/-! # Kept outputs are entries of their directory

    The path of a kept output goes from the capture directory one step further, to
    the file, whatever suite, variant and numbers the name of the file is made of
    (`Capture.isEntry_path`).  For that the name must hold no slash and not stand for
    a directory itself: all its characters are those of names, apart from the dot at
    its end (`Capture.plain_fileName`).  It has a bounded length
    (`Capture.utf8ByteSize_fileName_le`). -/

namespace BenchSweep

/-! ## Components of a path -/

namespace Path

/-- A slash ends a component, and the next one begins behind it. -/
theorem components_append_slash (front back : String) :
    components (front ++ "/" ++ back) = components front ++ components back := by
  have hslash : "/".toList = ['/'] := rfl
  simp only [components, String.toList_append, hslash, List.append_assoc, List.singleton_append,
    List.splitOn_append_cons_self, List.map_append, List.filter_append]

theorem components_empty : components "" = [] := by decide

/-- A text without slashes is one component, unless it stands for no step at all. -/
theorem components_of_not_mem {name : String} (hslash : '/' ∉ name.toList) (hne : name ≠ "")
    (hdot : name ≠ ".") : components name = [name] := by
  rw [components, List.splitOn_eq_singleton hslash, List.map_singleton, String.ofList_toList]
  exact List.filter_cons_of_pos (by simp [hne, hdot])

/-- **JOINING** a path that starts nowhere to a base adds its components to those of
    the base. -/
theorem components_join (base : String) {path : String} (hrelative : isAbsolute path = false) :
    components (join base path) = components base ++ components path := by
  rw [join, hrelative, Bool.false_or]
  by_cases hempty : base.isEmpty = true
  · rw [if_pos hempty, String.isEmpty_iff.mp hempty, components_empty, List.nil_append]
  · rw [if_neg hempty]
    by_cases hslash : base.endsWith '/' = true
    · -- the slash is there already, with nothing behind it
      obtain ⟨front, rfl⟩ := String.endsWith_char_iff_exists_append.mp hslash
      have hbase : components (front ++ "/") = components front := by
        have hsplit := components_append_slash front ""
        rwa [String.append_empty, components_empty, List.append_nil] at hsplit
      rw [if_pos hslash]
      show components (front ++ "/" ++ path) = components (front ++ "/") ++ components path
      rw [components_append_slash, hbase]
    · rw [if_neg hslash, components_append_slash]

/-- What is joined to a base starts where the base does. -/
theorem isAbsolute_join (base : String) {path : String} (hrelative : isAbsolute path = false) :
    isAbsolute (join base path) = isAbsolute base := by
  have happend : ∀ rest : String, base ≠ "" → isAbsolute (base ++ rest) = isAbsolute base := by
    intro rest hne
    obtain ⟨c, cs, hbase⟩ := List.exists_cons_of_ne_nil
      (fun hnil => hne (String.toList_eq_nil_iff.mp hnil))
    rw [isAbsolute, isAbsolute, Bool.eq_iff_iff, String.startsWith_string_iff,
      String.startsWith_string_iff, String.toList_append, hbase, List.cons_append]
    show ['/'] <+: c :: (cs ++ rest.toList) ↔ ['/'] <+: c :: cs
    simp only [List.cons_prefix_cons, List.nil_prefix]
  rw [join, hrelative, Bool.false_or]
  by_cases hempty : base.isEmpty = true
  · rw [if_pos hempty, String.isEmpty_iff.mp hempty, hrelative]
    rfl
  · have hne : base ≠ "" := fun h => hempty (String.isEmpty_iff.mpr h)
    rw [if_neg hempty]
    by_cases hslash : base.endsWith '/' = true
    · rw [if_pos hslash, happend path hne]
    · rw [if_neg hslash, String.append_assoc, happend _ hne]

/-- A path leads to the entry of a directory that has some name: it starts where the
    directory does and goes one step further, which is not the step back. -/
structure IsEntry (path dir name : String) : Prop where
  sameStart : isAbsolute path = isAbsolute dir
  oneStep   : components path = components dir ++ [name]
  notBack   : name ≠ ".."

end Path

/-! ## Numerals in bytes -/

namespace Text

/-- A numeral takes one byte for each of its digits. -/
theorem utf8ByteSize_toString (n : Nat) :
    (toString n).utf8ByteSize = (decimal n).length := by
  have hone : ∀ c ∈ decimal n, c.utf8Size = 1 := by
    intro c hc
    have hle := ((isDigit_iff c).mp (isDigit_of_mem_decimal hc)).2
    exact Char.utf8Size_eq_one_iff.mpr (UInt32.le_trans hle (by decide))
  have hbytes : (toString n).utf8ByteSize = (encodeUtf8 (toString n)).length := rfl
  rw [hbytes, encodeUtf8_eq_flatMap, toList_toString, List.length_flatMap]
  simp only [String.length_utf8EncodeChar]
  rw [List.map_congr_left hone, List.map_const', List.sum_replicate_nat, Nat.mul_one]

/-- A number below a power of ten takes no more bytes than the power has zeros. -/
theorem utf8ByteSize_toString_le {n digits : Nat} (hdigits : 0 < digits)
    (hn : n < 10 ^ digits) : (toString n).utf8ByteSize ≤ digits := by
  rw [utf8ByteSize_toString, decimal]
  exact (Nat.length_toDigits_le_iff (by decide) hdigits).mpr hn

end Text

/-! ## The name of a file -/

namespace Capture

variable (r : TrialResult)

/-- The name of a file has the characters of names, and a dot. -/
theorem plain_fileName : ∀ c ∈ (fileName r).toList, isNameChar c = true ∨ c = '.' := by
  have hnumeral : ∀ n : Nat, ∀ c ∈ (toString n).toList, isNameChar c = true := by
    intro n c hc
    rw [Text.toList_toString] at hc
    simp [isNameChar, Char.isAlphanum, Text.isDigit_of_mem_decimal hc]
  have hfixed : ∀ c ∈ ("-" ++ "-t" ++ "-r" ++ ".txt").toList, isNameChar c = true ∨ c = '.' := by
    simp [isNameChar]
  simp only [String.toList_append, List.mem_append] at hfixed
  intro c hc
  simp only [fileName, String.toList_append, List.mem_append] at hc
  rcases hc with
    ((((((((hsuite | h) | hvariant) | h) | hthreads) | h) | hratio) | h) | hrepetition) | h
  · exact .inl (Name.isNameChar_of_mem hsuite)
  · exact hfixed c (.inl (.inl (.inl h)))
  · exact .inl (Name.isNameChar_of_mem hvariant)
  · exact hfixed c (.inl (.inl (.inr h)))
  · exact .inl (hnumeral _ c hthreads)
  · exact hfixed c (.inl (.inr h))
  · exact .inl (hnumeral _ c hratio)
  · exact hfixed c (.inl (.inl (.inl h)))
  · exact .inl (hnumeral _ c hrepetition)
  · exact hfixed c (.inr h)

theorem slash_not_mem_fileName : '/' ∉ (fileName r).toList := by
  intro hslash
  rcases plain_fileName r '/' hslash with h | h
  · exact nomatch h
  · exact nomatch h

/-- The name of a file begins with no dot, so that it is the name of an entry. -/
theorem fileName_ne {text : String} (htext : text.toList.head? = none ∨ text.toList.head? = some '.') :
    fileName r ≠ text := by
  obtain ⟨c, cs, hcons, hc⟩ := exists_fileName_eq_cons r
  rintro rfl
  rw [hcons, List.head?_cons] at htext
  rcases htext with h | h
  · exact nomatch h
  · rw [Option.some.inj h] at hc
    exact nomatch hc

/-- **THE PATH** of a kept output leads to an entry of the capture directory. -/
theorem isEntry_path (dir : String) : Path.IsEntry (path dir r) dir (fileName r) where
  sameStart := Path.isAbsolute_join dir (isAbsolute_fileName r)
  oneStep := by
    have hname : Path.components (fileName r) = [fileName r] :=
      Path.components_of_not_mem (slash_not_mem_fileName r) (fileName_ne r (.inl rfl))
        (fileName_ne r (.inr rfl))
    rw [path, Path.components_join dir (isAbsolute_fileName r), hname]
  notBack := fileName_ne r (.inr rfl)

/-- **THE LENGTH** of a file's name: two names of 64 bytes, two numbers of ten digits,
    one of four, and twelve bytes between them. -/
theorem utf8ByteSize_fileName_le : (fileName r).utf8ByteSize ≤ 162 := by
  have hsuite := r.key.suite.valid.short
  have hvariant := r.key.variant.valid.short
  have hword : ∀ w : UInt32, (toString w.toNat).utf8ByteSize ≤ 10 := fun w =>
    Text.utf8ByteSize_toString_le (by decide) (Nat.lt_trans w.toNat_lt (by decide))
  have hthreads : r.key.threads.text.utf8ByteSize ≤ 10 := hword _
  have hratio : r.key.ratio.text.utf8ByteSize ≤ 4 := by
    have hle := UInt32.le_iff_toNat_le.mp r.key.ratio.le_thousand
    exact Text.utf8ByteSize_toString_le (by decide) (Nat.lt_of_le_of_lt hle (by decide))
  have hrepetition := hword r.repetition
  have hhyphen : "-".utf8ByteSize = 1 := by decide
  have ht : "-t".utf8ByteSize = 2 := by decide
  have hr : "-r".utf8ByteSize = 2 := by decide
  have htxt : ".txt".utf8ByteSize = 4 := by decide
  simp only [fileName, String.utf8ByteSize_append, hhyphen, ht, hr, htxt]
  omega

/-- The longest names and numbers reach the bound. -/
example :
    let longest : String := String.ofList (List.replicate 64 'a')
    let r : TrialResult :=
      ⟨⟨⟨longest, by decide +kernel⟩, ⟨longest, by decide +kernel⟩, ⟨4294967295, by decide⟩,
        ⟨1000, by decide⟩⟩, 4294967295, "", none, .figure 0⟩
    (fileName r).utf8ByteSize = 162 := by
  decide +kernel

/-- Among the results of one suite, the joint name tells the variants apart. -/
theorem jointName_inj {suite : SuiteName} {variant variant' : VariantName} :
    jointName suite variant = jointName suite variant' ↔ variant = variant' := by
  rw [jointName, jointName, String.append_right_inj, Name.text_injective.eq_iff]

variable {r}

/-- Two results of one suite are kept in one file only if they are of one repetition
    of one configuration. -/
theorem path_eq_iff_of_suite_eq (dir : String) {r' : TrialResult}
    (hsuite : r.key.suite = r'.key.suite) :
    path dir r = path dir r' ↔ r.key = r'.key ∧ r.repetition = r'.repetition := by
  obtain ⟨⟨suite, variant, threads, ratio⟩, repetition⟩ := r
  obtain ⟨⟨suite', variant', threads', ratio'⟩, repetition'⟩ := r'
  obtain rfl : suite = suite' := hsuite
  rw [path_eq_iff]
  simp only [jointName_inj, Key.mk.injEq, true_and, and_assoc]

variable (r)

/-- **KEPT OUTPUTS** have safe and telling names: the paths of two results are the same
    just if their numbers are, and their suites and variants joined by a hyphen; among
    the results of one suite, just if they are of one repetition of one configuration.
    The path of a result leads to an entry of the capture directory, whose name has no
    slash and at most 162 bytes. -/
theorem paths_tell_trials_apart (dir : String) (r' : TrialResult) :
    (path dir r = path dir r' ↔
      r.key.threads = r'.key.threads ∧ r.key.ratio = r'.key.ratio ∧
        r.repetition = r'.repetition ∧
        r.key.suite.text ++ "-" ++ r.key.variant.text
          = r'.key.suite.text ++ "-" ++ r'.key.variant.text)
    ∧ (r.key.suite = r'.key.suite ∧ path dir r = path dir r' ↔
      r.key = r'.key ∧ r.repetition = r'.repetition)
    ∧ Path.IsEntry (path dir r) dir (fileName r)
    ∧ '/' ∉ (fileName r).toList
    ∧ (fileName r).utf8ByteSize ≤ 162 := by
  refine ⟨?_, ?_, isEntry_path r dir, slash_not_mem_fileName r, utf8ByteSize_fileName_le r⟩
  · rw [path_eq_iff]
    constructor
    · rintro ⟨hjoint, hthreads, hratio, hrepetition⟩
      exact ⟨hthreads, hratio, hrepetition, hjoint⟩
    · rintro ⟨hthreads, hratio, hrepetition, hjoint⟩
      exact ⟨hjoint, hthreads, hratio, hrepetition⟩
  · constructor
    · rintro ⟨hsuite, hpath⟩
      exact (path_eq_iff_of_suite_eq dir hsuite).mp hpath
    · rintro ⟨hkey, hrepetition⟩
      have hsuite : r.key.suite = r'.key.suite := congrArg Key.suite hkey
      exact ⟨hsuite, (path_eq_iff_of_suite_eq dir hsuite).mpr ⟨hkey, hrepetition⟩⟩

end Capture

end BenchSweep
