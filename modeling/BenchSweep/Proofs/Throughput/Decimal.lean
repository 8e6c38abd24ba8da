import BenchSweep.Proofs.Binary64.Round
import BenchSweep.Proofs.Throughput

/-! # Figures with a decimal point

    A figure with digits before and behind a point is read as the nearest binary64 value,
    and that is cut to an integer.  Below `2 ^ 53` what is found is the integer before the
    point, unless the digits behind it are so close to the next one that the value is
    rounded up to it; from there on it is that integer only if it is a binary64 value
    itself, or the largest figure (`decimal_figure_kept_iff`). -/

namespace BenchSweep.Binary64

open Text

/-- Words for values begin with letters. -/
theorem wordValue?_of_isDigit {c : Char} (hc : c.isDigit = true) (negative : Bool)
    (r : List Char) : wordValue? negative (c :: r) = none := by
  have hlower : c.toLower = c := by
    refine dif_neg ?_
    intro hupper
    have hrange := (isDigit_iff c).mp hc
    have hle : c.toNat ≤ 57 := UInt32.le_iff_toNat_le.mp hrange.2
    have hge : 65 ≤ c.toNat := UInt32.le_iff_toNat_le.mp hupper.1
    omega
  have hhead : ∀ {d : Char} {word : List Char}, d.isDigit = false →
      String.ofList ((c :: r).map Char.toLower) ≠ String.ofList (d :: word) := by
    intro d word hd h
    obtain ⟨hcd, -⟩ := List.cons.inj (String.ofList_injective h)
    rw [hlower] at hcd
    exact Bool.false_ne_true ((hcd ▸ hd).symm.trans hc)
  unfold wordValue?
  split
  · next h => exact absurd h (hhead (d := 'i') rfl)
  · next h => exact absurd h (hhead (d := 'i') rfl)
  · next h => exact absurd h (hhead (d := 'n') rfl)
  · rfl

/-- **A NUMERAL WITH A POINT** has the digits on both sides of the point, and as many places
    as there are digits behind it. -/
theorem read?_point {whole part : List Char} (hne : whole ≠ [])
    (hwhole : ∀ c ∈ whole, c.isDigit = true) (hpart : ∀ c ∈ part, c.isDigit = true) {m : Magnitude}
    (hm : Magnitude.ofDecimal? (Nat.ofDigitChars 10 (whole ++ part) 0) (-(part.length : Int))
      = some m) :
    read? (whole ++ '.' :: part) = some (.finite false m) := by
  have hspan : spanDigits (whole ++ '.' :: part) = (whole, '.' :: part) :=
    spanDigits_append hwhole fun c hc => by rw [← Option.some.inj hc]; rfl
  have hspan' : spanDigits part = (part, []) := by
    have hnone : ∀ c ∈ ([] : List Char).head?, c.isDigit = false := by
      intro c hc
      cases hc
    have hall := spanDigits_append hpart hnone
    rwa [List.append_nil] at hall
  have hdigits : ∀ c ∈ whole ++ part, c.isDigit = true := by
    intro c hc
    rcases List.mem_append.mp hc with h | h
    · exact hwhole c h
    · exact hpart c h
  obtain ⟨d, ds, rfl⟩ := List.exists_cons_of_ne_nil hne
  have hd : d.isDigit = true := hwhole d List.mem_cons_self
  have hvalue : value? 10 (d :: ds ++ part) = some (Nat.ofDigitChars 10 (d :: ds ++ part) 0) :=
    valueAfter?_eq_ofDigitChars hdigits 0
  have hread : digitsValue? false (d :: ds ++ '.' :: part) = some (.finite false m) := by
    simp only [digitsValue?, hspan, hspan', hvalue, exponent?, Option.bind_eq_bind,
      Option.bind_some, Int.zero_sub, hm]
  have hunsigned : unsigned? false (d :: ds ++ '.' :: part) = some (.finite false m) := by
    rw [unsigned?, List.cons_append, wordValue?_of_isDigit hd]
    exact hread
  unfold read?
  split
  · next h => exact absurd ((List.cons.inj h).1 ▸ hd) (by decide)
  · next h => exact absurd ((List.cons.inj h).1 ▸ hd) (by decide)
  · exact hunsigned

end BenchSweep.Binary64

namespace BenchSweep.Throughput

open Text

/-- A text with a point in it is no natural number. -/
theorem numeralBelow?_point (bound : Nat) {whole part : List Char} (hne : whole ≠ [])
    (hwhole : ∀ c ∈ whole, c.isDigit = true) :
    numeralBelow? bound (whole ++ '.' :: part) = none := by
  have hnone : ∀ acc, valueAfter? 10 acc (whole ++ '.' :: part) = none := by
    clear hne
    induction whole with
    | nil => intro acc; rfl
    | cons c whole ih =>
        intro acc
        obtain ⟨hc, hrest⟩ := List.forall_mem_cons.mp hwhole
        rw [List.cons_append, valueAfter?, digit?_of_isDigit hc]
        exact ih hrest _
  obtain ⟨c, ds, rfl⟩ := List.exists_cons_of_ne_nil hne
  have hplus : dropPlus (c :: ds ++ '.' :: part) = c :: ds ++ '.' :: part := by
    unfold dropPlus
    split
    · next h => exact absurd ((List.cons.inj h).1 ▸ hwhole c List.mem_cons_self) (by decide)
    · rfl
  rw [numeralBelow?, hplus]
  show (valueAfter? 10 0 (c :: ds ++ '.' :: part)).filter _ = none
  rw [hnone]
  rfl

/-- **A WORD WITH A POINT** stands for a figure, and whether that is the integer before the
    point. -/
theorem ofWord?_point {whole part : List Char} (hne : whole ≠ [])
    (hwhole : ∀ c ∈ whole, c.isDigit = true) (hpart : ∀ c ∈ part, c.isDigit = true)
    (hword : Nat.ofDigitChars 10 whole 0 ≤ largest) :
    ∃ figure ≤ largest, ofWord? (whole ++ '.' :: part) = some figure ∧
      (figure = Nat.ofDigitChars 10 whole 0 ↔
        Magnitude.KeepsFloor (Nat.ofDigitChars 10 whole 0)
          (10 ^ part.length - Nat.ofDigitChars 10 part 0) (10 ^ part.length)) := by
  obtain ⟨m, hm, hkept⟩ := Magnitude.floor_ofDecimal?_iff (ofDigitChars_lt hpart)
    (Nat.lt_succ_of_le hword)
  have hdigits : Nat.ofDigitChars 10 (whole ++ part) 0
      = Nat.ofDigitChars 10 whole 0 * 10 ^ part.length + Nat.ofDigitChars 10 part 0 := by
    rw [Nat.ofDigitChars_append, Nat.ofDigitChars_eq_ofDigitChars_zero, Nat.mul_comm]
  refine ⟨min m.floor largest, Nat.min_le_right .., ?_, hkept⟩
  rw [ofWord?, numeralBelow?_point _ hne hwhole]
  show ofNumeral? (whole ++ '.' :: part) = _
  rw [ofNumeral?, Binary64.read?_point hne hwhole hpart (hdigits ▸ hm)]
  rfl

/-- **DECIMAL FIGURES.**  Behind a marker and a space, digits before and behind a point give
    a figure, and it is the integer before the point exactly if rounding to binary64 keeps
    it. -/
theorem decimal_figure_kept_iff (marker whole part : String) (hmarker : '\n' ∉ marker.toList)
    (hwhole : whole.toList ≠ [] ∧ ∀ c ∈ whole.toList, c.isDigit = true)
    (hpart : part.toList ≠ [] ∧ ∀ c ∈ part.toList, c.isDigit = true)
    (hword : Nat.ofDigitChars 10 whole.toList 0 < 2 ^ 64) :
    ∀ ending ∈ ["", "\n"], ∃ figure : UInt64,
      extract? (marker ++ " " ++ (whole ++ "." ++ part) ++ ending) marker = some figure ∧
      (figure.toNat = Nat.ofDigitChars 10 whole.toList 0 ↔
        Magnitude.KeepsFloor (Nat.ofDigitChars 10 whole.toList 0)
          (10 ^ part.toList.length - Nat.ofDigitChars 10 part.toList 0)
          (10 ^ part.toList.length)) := by
  obtain ⟨hne, hwhole⟩ := hwhole
  obtain ⟨-, hpart⟩ := hpart
  have hlist : (whole ++ "." ++ part).toList = whole.toList ++ '.' :: part.toList := by
    simp [String.toList_append]
  have hvisible : ∀ c ∈ (whole ++ "." ++ part).toList, isBlank c = false := by
    intro c hc
    rw [hlist] at hc
    rcases List.mem_append.mp hc with hc | hc
    · exact isBlank_of_isDigit (hwhole c hc)
    · rcases List.mem_cons.mp hc with rfl | hc
      · decide
      · exact isBlank_of_isDigit (hpart c hc)
  have hword' : (whole ++ "." ++ part).toList ≠ [] := by
    rw [hlist]
    exact List.append_ne_nil_of_left_ne_nil hne _
  obtain ⟨n, hle, hfigure, hkept⟩ := ofWord?_point hne hwhole hpart (Nat.le_sub_one_of_lt hword)
  have hn : (UInt64.ofNat n).toNat = n := by
    rw [UInt64.toNat_ofNat']
    exact Nat.mod_eq_of_lt (Nat.lt_of_le_sub_one (by decide) hle)
  intro ending hending
  refine ⟨UInt64.ofNat n, ?_, by rw [hn]; exact hkept⟩
  rw [extract?_word hmarker hword' hvisible ending hending, hlist, hfigure, Option.map_some]

/-- Half an operation per second more than `2 ^ 52`, which is as near to the next integer:
    the even one is kept. -/
theorem decimal_figure_half_kept :
    let whole := "4503599627370496"
    let part := "50"
    (whole.toList ≠ [] ∧ ∀ c ∈ whole.toList, c.isDigit = true) ∧
      (part.toList ≠ [] ∧ ∀ c ∈ part.toList, c.isDigit = true) ∧
      Nat.ofDigitChars 10 whole.toList 0 = 2 ^ 52 ∧
      ∃ figure : UInt64, extract? ("ops:" ++ " " ++ (whole ++ "." ++ part) ++ "\n") "ops:"
        = some figure ∧ figure.toNat = 2 ^ 52 := by
  intro whole part
  have hwhole : whole.toList ≠ [] ∧ ∀ c ∈ whole.toList, c.isDigit = true := by simp [whole]
  have hpart : part.toList ≠ [] ∧ ∀ c ∈ part.toList, c.isDigit = true := by simp [part]
  have hvalue : Nat.ofDigitChars 10 whole.toList 0 = 2 ^ 52 := by decide
  obtain ⟨figure, hfound, hkept⟩ := decimal_figure_kept_iff "ops:" whole part (by decide) hwhole
    hpart (by rw [hvalue]; decide) "\n" (List.mem_cons_of_mem _ List.mem_cons_self)
  refine ⟨hwhole, hpart, hvalue, figure, hfound, (hkept.mpr ?_).trans hvalue⟩
  decide

/-- A long fraction is rounded up to the next integer, and an integer that is no binary64
    value is rounded down. -/
theorem decimal_figure_rounded :
    extract? ("Total Ops/sec =" ++ " " ++ ("4567" ++ "." ++ "9999999999999") ++ "\n")
        "Total Ops/sec =" = some 4568 ∧
      extract? ("Total Ops/sec =" ++ " " ++ ("9007199254740993" ++ "." ++ "0") ++ "\n")
        "Total Ops/sec =" = some 9007199254740992 ∧
      ¬ ∀ whole part : String,
        (whole.toList ≠ [] ∧ ∀ c ∈ whole.toList, c.isDigit = true) →
        (part.toList ≠ [] ∧ ∀ c ∈ part.toList, c.isDigit = true) →
        Nat.ofDigitChars 10 whole.toList 0 < 2 ^ 64 →
        extract? ("Total Ops/sec =" ++ " " ++ (whole ++ "." ++ part) ++ "\n") "Total Ops/sec ="
          = some (UInt64.ofNat (Nat.ofDigitChars 10 whole.toList 0)) := by
  have hup : extract? ("Total Ops/sec =" ++ " " ++ ("4567" ++ "." ++ "9999999999999") ++ "\n")
      "Total Ops/sec =" = some 4568 := by decide +kernel
  have hdown : extract? ("Total Ops/sec =" ++ " " ++ ("9007199254740993" ++ "." ++ "0") ++ "\n")
      "Total Ops/sec =" = some 9007199254740992 := by decide +kernel
  refine ⟨hup, hdown, ?_⟩
  intro hall
  have hwhole := hall "4567" "9999999999999" (by simp) (by simp) (by decide)
  exact absurd (Option.some.inj (hup.symm.trans hwhole)) (by decide)

end BenchSweep.Throughput
