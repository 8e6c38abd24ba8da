import BenchSweep.Plan
import BenchSweep.Proofs.Binary64.Nearest
import BenchSweep.Proofs.Text.Numeral

/-! # Hours that stand for seconds

    A plan shows seconds as hours with two decimals, formed with binary64 values.  Three
    roundings lie between the two: the seconds to a value, the hours to a value, and these
    to two decimals.

    * **`Magnitude.exists_fixed`** — what is written with two decimals are the digits of the
      nearest number of hundredths.
    * **`exists_hoursText`** — read back as hundredths, the hours of a 64-bit word of seconds
      are the nearest ones, but for what the first two roundings may move; up to `2 ^ 51`
      seconds that is nothing. -/

namespace BenchSweep

/-- Hundredths, from a numeral with two decimals. -/
def Text.hundredths? (text : List Char) : Option Nat :=
  match text.splitOn '.' with
  | [whole, decimals] => if decimals.length = 2 then value? 10 (whole ++ decimals) else none
  | _ => none

/-- Hundredths of an hour **STAND FOR** some seconds if none are nearer, but for the last
    bits of the seconds. -/
structure StandsFor (hundredths secs : Nat) : Prop where
  le : 36 * hundredths ≤ secs + 18 + secs / 2 ^ 51
  ge : secs ≤ 36 * hundredths + 18 + secs / 2 ^ 51

/-! ## Two decimals -/

/-- Zeros in front of digits do not count. -/
theorem Text.ofDigitChars_zeros_append (n : Nat) (ds : List Char) :
    Nat.ofDigitChars 10 (List.replicate n '0' ++ ds) 0 = Nat.ofDigitChars 10 ds 0 := by
  induction n with
  | zero => rfl
  | succ n ih =>
      rw [List.replicate_succ, List.cons_append, Nat.ofDigitChars_cons]
      exact ih

/-- **TWO DECIMALS** are the digits of the nearest number of hundredths, with a point before
    the last two. -/
theorem Magnitude.exists_fixed (x : Magnitude) :
    ∃ whole decimals : List Char, (x.fixed 2).toList = whole ++ '.' :: decimals ∧
      (∀ c ∈ whole ++ decimals, c.isDigit = true) ∧ decimals.length = 2 ∧
      Text.value? 10 (whole ++ decimals) = some (roundHalfEven (x.ratio.1 * 100) x.ratio.2) := by
  let scaled := roundHalfEven (x.ratio.1 * 10 ^ 2) x.ratio.2
  let digits := List.replicate (3 - (Text.decimal scaled).length) '0' ++ Text.decimal scaled
  have hdigits : ∀ c ∈ digits, c.isDigit = true := by
    intro c hc
    rcases List.mem_append.mp hc with hzero | hdigit
    · rw [List.eq_of_mem_replicate hzero]
      rfl
    · exact Text.isDigit_of_mem_decimal hdigit
  have hlength : 3 ≤ digits.length := by
    rw [List.length_append, List.length_replicate]
    omega
  have hvalue : Text.value? 10 digits = some scaled := by
    obtain ⟨d, ds, hcons⟩ := List.exists_cons_of_length_pos (Nat.lt_of_lt_of_le (by decide) hlength)
    have hread := Text.valueAfter?_eq_ofDigitChars hdigits 0
    rw [Text.ofDigitChars_zeros_append, Text.decimal, Nat.ofDigitChars_ten_toDigits] at hread
    rw [← hread, hcons]
    rfl
  refine ⟨digits.take (digits.length - 2), digits.drop (digits.length - 2),
    String.toList_ofList, ?_, ?_, ?_⟩
  · rw [List.take_append_drop]
    exact hdigits
  · rw [List.length_drop]
    omega
  · rw [List.take_append_drop]
    exact hvalue

/-- So they are read back as hundredths. -/
theorem Magnitude.hundredths?_fixed (x : Magnitude) :
    Text.hundredths? (x.fixed 2).toList
      = some (roundHalfEven (x.ratio.1 * 100) x.ratio.2) := by
  obtain ⟨whole, decimals, htext, hdigits, hlength, hvalue⟩ := x.exists_fixed
  have hpoint : ∀ part : List Char, (∀ c ∈ part, c ∈ whole ++ decimals) → '.' ∉ part := by
    intro part hpart hmem
    exact absurd (hdigits '.' (hpart '.' hmem)) (by decide)
  have hwhole : '.' ∉ whole := hpoint whole fun c hc => List.mem_append_left _ hc
  have hdecimals : '.' ∉ decimals := hpoint decimals fun c hc => List.mem_append_right _ hc
  rw [Text.hundredths?, htext, List.splitOn_append_cons_self, List.splitOn_eq_singleton hwhole,
    List.splitOn_eq_singleton hdecimals]
  show (if decimals.length = 2 then _ else _) = _
  rw [if_pos hlength, hvalue]

/-! ## Hours -/

/-- The hours of a positive number of seconds are formed without overflow, and are near. -/
theorem hoursText_eq_fixed {secs : Nat} (hpos : 0 < secs) (hword : secs < 2 ^ 64) :
    ∃ whole hours : Magnitude, hoursText secs = hours.fixed 2 ∧ whole.IsNear secs 1 ∧
      hours.IsNear whole.ratio.1 (whole.ratio.2 * 3600) := by
  obtain ⟨whole, hwhole, hnear⟩ :=
    Magnitude.isNear_ofRatio? hpos Nat.one_pos (by omega) (by omega)
  have hden := whole.ratio_pos
  have hle := hnear.le
  have hge := hnear.ge
  have hlow : whole.ratio.2 ≤ secs * whole.ratio.2 := Nat.le_mul_of_pos_left _ hpos
  have hhigh : secs * whole.ratio.2 ≤ 2 ^ 64 * whole.ratio.2 :=
    Nat.mul_le_mul_right _ (Nat.le_of_lt hword)
  have hlarge : whole.ratio.1 < whole.ratio.2 * 3600 * 2 ^ 64 := by omega
  have hsmall : whole.ratio.2 * 3600 ≤ whole.ratio.1 * 2 ^ 64 := by omega
  obtain ⟨hours, hhours, hnear'⟩ :=
    Magnitude.isNear_ofRatio? (by omega) (by omega) hlarge hsmall
  refine ⟨whole, hours, ?_, hnear, hnear'⟩
  simp only [hoursText, Magnitude.ofNat?, hwhole, hhours, Option.bind_eq_bind, Option.bind_some]

/-- **HOURS** stand for the seconds they are shown for. -/
theorem exists_hoursText {secs : Nat} (hword : secs < 2 ^ 64) :
    ∃ hundredths, Text.hundredths? (hoursText secs).toList = some hundredths ∧
      StandsFor hundredths secs := by
  rcases Nat.eq_zero_or_pos secs with rfl | hpos
  · exact ⟨0, by decide, by decide, by decide⟩
  obtain ⟨whole, hours, htext, hwhole, hhours⟩ := hoursText_eq_fixed hpos hword
  refine ⟨_, htext ▸ hours.hundredths?_fixed, ?_⟩
  have hden := hours.ratio_pos
  have hup := roundHalfEven_le (hours.ratio.1 * 100) hours.ratio.2
  have hdown := le_roundHalfEven_add (hours.ratio.1 * 100) hden
  obtain ⟨hle, hge⟩ := hwhole.over hhours
  generalize roundHalfEven (hours.ratio.1 * 100) hours.ratio.2 = hundredths at hup hdown ⊢
  -- over the denominator of the hours' value all of this is linear
  have hupper : (2 ^ 53 * 2 ^ 53) * (36 * hundredths)
      ≤ ((2 ^ 53 + 1) * (2 ^ 53 + 1)) * secs + (2 ^ 53 * 2 ^ 53) * 18 := by
    refine Nat.le_of_mul_le_mul_right ?_ hden
    calc (2 ^ 53 * 2 ^ 53) * (36 * hundredths) * hours.ratio.2
        = (2 ^ 53 * 2 ^ 53) * (18 * (2 * (hundredths * hours.ratio.2))) := by ring
      _ ≤ (2 ^ 53 * 2 ^ 53) * (18 * (2 * (hours.ratio.1 * 100) + hours.ratio.2)) :=
          Nat.mul_le_mul_left _ (Nat.mul_le_mul_left _ hup)
      _ = (2 ^ 53 * 2 ^ 53) * (hours.ratio.1 * (1 * 3600))
            + (2 ^ 53 * 2 ^ 53) * 18 * hours.ratio.2 := by ring
      _ ≤ ((2 ^ 53 + 1) * (2 ^ 53 + 1)) * (secs * hours.ratio.2)
            + (2 ^ 53 * 2 ^ 53) * 18 * hours.ratio.2 := Nat.add_le_add_right hle _
      _ = (((2 ^ 53 + 1) * (2 ^ 53 + 1)) * secs + (2 ^ 53 * 2 ^ 53) * 18)
            * hours.ratio.2 := by ring
  have hlower : ((2 ^ 53 - 1) * (2 ^ 53 - 1)) * secs
      ≤ (2 ^ 53 * 2 ^ 53) * (36 * hundredths + 18) := by
    refine Nat.le_of_mul_le_mul_right ?_ hden
    calc ((2 ^ 53 - 1) * (2 ^ 53 - 1)) * secs * hours.ratio.2
        = ((2 ^ 53 - 1) * (2 ^ 53 - 1)) * (secs * hours.ratio.2) := Nat.mul_assoc ..
      _ ≤ (2 ^ 53 * 2 ^ 53) * (hours.ratio.1 * (1 * 3600)) := hge
      _ = (2 ^ 53 * 2 ^ 53) * (18 * (2 * (hours.ratio.1 * 100))) := by ring
      _ ≤ (2 ^ 53 * 2 ^ 53) * (18 * (2 * (hundredths * hours.ratio.2) + hours.ratio.2)) :=
          Nat.mul_le_mul_left _ (Nat.mul_le_mul_left _ hdown)
      _ = (2 ^ 53 * 2 ^ 53) * (36 * hundredths + 18) * hours.ratio.2 := by ring
  constructor
  · omega
  · omega

end BenchSweep
