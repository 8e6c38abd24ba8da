import BenchSweep.Capture
import BenchSweep.Proofs.Text.Numeral

/-! # The names of kept outputs

    The file of a trial's output is named after suite, variant, thread count, ratio
    and repetition.  The three numbers can be read back from the right, digit by
    digit up to a sign that is none (`Capture.fileName_eq_iff`).  Suite and variant
    cannot: a hyphen stands between them, and hyphens may stand in either. -/

namespace BenchSweep

/-! ## Numerals at the end of a text -/

/-- A run of digits at the end of a list, behind something else, can be taken off
    in one way only. -/
theorem append_digits_inj {xs ys ds es : List Char} {c c' : Char}
    (hds : ∀ d ∈ ds, d.isDigit = true) (hes : ∀ e ∈ es, e.isDigit = true)
    (hc : c.isDigit = false) (hc' : c'.isDigit = false)
    (h : xs ++ c :: ds = ys ++ c' :: es) : xs = ys ∧ c = c' ∧ ds = es := by
  rcases List.append_eq_append_iff.mp h with ⟨zs, hys, hds'⟩ | ⟨zs, hxs, hes'⟩
  · cases zs with
    | nil =>
        obtain ⟨hcc', hdses⟩ := List.cons.inj hds'
        exact ⟨((List.append_nil xs).symm.trans hys.symm), hcc', hdses⟩
    | cons z zs =>
        -- the sign before the one run would be a digit of the other
        obtain ⟨-, hmem⟩ := List.cons.inj hds'
        have hdigit := hds c' (hmem ▸ List.mem_append_right zs List.mem_cons_self)
        exact nomatch hdigit.symm.trans hc'
  · cases zs with
    | nil =>
        obtain ⟨hcc', hdses⟩ := List.cons.inj hes'
        exact ⟨hxs.trans (List.append_nil ys), hcc'.symm, hdses.symm⟩
    | cons z zs =>
        obtain ⟨-, hmem⟩ := List.cons.inj hes'
        have hdigit := hes c (hmem ▸ List.mem_append_right zs List.mem_cons_self)
        exact nomatch hdigit.symm.trans hc

/-- A numeral behind a separator that ends in no digit can be read back. -/
theorem append_numeral_inj_iff {separator : String} (front : List Char) (c : Char)
    (hseparator : separator.toList = front ++ [c]) (hc : c.isDigit = false)
    {x y : String} {a b : Nat} :
    x ++ separator ++ toString a = y ++ separator ++ toString b ↔ x = y ∧ a = b := by
  constructor
  · intro h
    have hlists := congrArg String.toList h
    simp only [String.toList_append, hseparator, Text.toList_toString, List.append_assoc,
      List.singleton_append] at hlists
    rw [← List.append_assoc, ← List.append_assoc] at hlists
    have hdigits : ∀ n, ∀ d ∈ Text.decimal n, d.isDigit = true := fun n d hd =>
      Text.isDigit_of_mem_decimal hd
    obtain ⟨hfront, -, hnumeral⟩ := append_digits_inj (hdigits a) (hdigits b) hc hc hlists
    exact ⟨String.toList_injective (List.append_cancel_right hfront),
      Text.decimal_injective hnumeral⟩
  · rintro ⟨rfl, rfl⟩
    rfl

/-! ## Names of files -/

theorem ThreadCount.toNat_inj {t t' : ThreadCount} : t.val.toNat = t'.val.toNat ↔ t = t' := by
  cases t
  cases t'
  rw [UInt32.toNat_inj, ThreadCount.mk.injEq]

theorem Permil.toNat_inj {r r' : Permil} : r.val.toNat = r'.val.toNat ↔ r = r' := by
  cases r
  cases r'
  rw [UInt32.toNat_inj, Permil.mk.injEq]

namespace Capture

/-- What the name of a file says of suite and variant. -/
def jointName (suite : SuiteName) (variant : VariantName) : String :=
  suite.text ++ "-" ++ variant.text

/-- **THE NAME OF A FILE** tells apart everything but suites and variants whose
    joint names are the same. -/
theorem fileName_eq_iff (r r' : TrialResult) :
    fileName r = fileName r' ↔
      jointName r.key.suite r.key.variant = jointName r'.key.suite r'.key.variant ∧
        r.key.threads = r'.key.threads ∧ r.key.ratio = r'.key.ratio ∧
        r.repetition = r'.repetition := by
  have ht : ∀ {x y : String} {a b : Nat},
      x ++ "-t" ++ toString a = y ++ "-t" ++ toString b ↔ x = y ∧ a = b :=
    append_numeral_inj_iff ['-'] 't' rfl rfl
  have hr : ∀ {x y : String} {a b : Nat},
      x ++ "-r" ++ toString a = y ++ "-r" ++ toString b ↔ x = y ∧ a = b :=
    append_numeral_inj_iff ['-'] 'r' rfl rfl
  have hk : ∀ {x y : String} {a b : Nat},
      x ++ "-" ++ toString a = y ++ "-" ++ toString b ↔ x = y ∧ a = b :=
    append_numeral_inj_iff [] '-' rfl rfl
  rw [fileName, fileName, String.append_left_inj, hk, Permil.text, Permil.text, hr,
    ThreadCount.text, ThreadCount.text, ht, ThreadCount.toNat_inj, Permil.toNat_inj,
    UInt32.toNat_inj, and_assoc, and_assoc]
  rfl

/-- The name of a file begins with that of a suite. -/
theorem exists_fileName_eq_cons (r : TrialResult) :
    ∃ c cs, (fileName r).toList = c :: cs ∧ isNameChar c = true := by
  have hname := r.key.suite.valid
  cases htext : r.key.suite.text.toList with
  | nil => exact absurd (String.toList_eq_nil_iff.mp htext) hname.nonempty
  | cons c cs =>
      have hplain := hname.plain
      rw [htext, List.all_cons, Bool.and_eq_true] at hplain
      simp only [fileName, String.toList_append, htext, List.cons_append]
      exact ⟨c, _, rfl, hplain.1⟩

/-- The name of a file does not begin with a slash. -/
theorem isAbsolute_fileName (r : TrialResult) : Path.isAbsolute (fileName r) = false := by
  obtain ⟨c, cs, hcons, hc⟩ := exists_fileName_eq_cons r
  rw [Path.isAbsolute, Bool.eq_false_iff]
  intro hslash
  have hbegins := String.startsWith_string_iff.mp hslash
  rw [hcons] at hbegins
  obtain ⟨rfl, -⟩ := List.cons_prefix_cons.mp hbegins
  exact nomatch hc

end Capture

/-- Paths below a directory differ as the names below it do. -/
theorem Path.join_inj {dir x y : String} (hx : isAbsolute x = false)
    (hy : isAbsolute y = false) : join dir x = join dir y ↔ x = y := by
  rw [join, join, hx, hy]
  cases dir.isEmpty with
  | true => exact Iff.rfl
  | false =>
      cases dir.endsWith '/' with
      | true => exact String.append_right_inj dir
      | false => exact String.append_right_inj (dir ++ "/")

/-- Two results are kept in one file exactly if the names of their files are the
    same. -/
theorem Capture.path_eq_iff (dir : String) (r r' : TrialResult) :
    path dir r = path dir r' ↔
      jointName r.key.suite r.key.variant = jointName r'.key.suite r'.key.variant ∧
        r.key.threads = r'.key.threads ∧ r.key.ratio = r'.key.ratio ∧
        r.repetition = r'.repetition :=
  (Path.join_inj (isAbsolute_fileName r) (isAbsolute_fileName r')).trans (fileName_eq_iff r r')

end BenchSweep
