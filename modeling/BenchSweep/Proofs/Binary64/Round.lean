import BenchSweep.Binary64.Round
import Mathlib.Data.Nat.Size

/-! # Integer parts of rounded quotients

    A quotient of natural numbers is rounded to the nearest binary64 value, and the
    integer part of that value is compared with the one of the quotient itself:

    * rounding to integers is told by comparisons alone, without division
      (`roundHalfEven_lt_iff`);
    * the leading bit of a quotient is the largest power of two below it
      (`le_leadingBit_iff`), and with it the spacing of the values around the quotient
      is known, and in how many steps of it the value is written (`ratio_ofRatio?`);
    * up to `2 ^ 53` a quotient keeps its integer part unless it is so close to the next
      integer that it is rounded up to it (`floor_ofRatio?_of_lt_one`,
      `floor_ofRatio?_of_lt`);
    * from `2 ^ 53` on, values are integers that are multiples of a power of two, and the
      integer part is kept exactly if it is such a multiple (`floor_ofRatio?_of_le`). -/

namespace BenchSweep

/-! ## Rounding to integers -/

/-- A quotient is rounded down if its remainder is below the half, or is the half and the
    integer part is even; otherwise it is rounded up. -/
theorem roundHalfEven_cases (num den : Nat) :
    (roundHalfEven num den = num / den ∧
      (2 * (num % den) < den ∨ 2 * (num % den) = den ∧ num / den % 2 = 0)) ∨
    (roundHalfEven num den = num / den + 1 ∧
      (den < 2 * (num % den) ∨ 2 * (num % den) = den ∧ num / den % 2 = 1)) := by
  rw [roundHalfEven]
  by_cases hlow : 2 * (num % den) < den
  · rw [if_pos hlow]
    exact .inl ⟨rfl, .inl hlow⟩
  by_cases hhigh : den < 2 * (num % den)
  · rw [if_neg hlow, if_pos hhigh]
    exact .inr ⟨rfl, .inl hhigh⟩
  have hhalf : 2 * (num % den) = den := by omega
  rw [if_neg hlow, if_neg hhigh]
  by_cases heven : num / den % 2 = 0
  · rw [if_pos heven]
    exact .inl ⟨rfl, .inr ⟨hhalf, heven⟩⟩
  · rw [if_neg heven]
    exact .inr ⟨rfl, .inr ⟨hhalf, Nat.mod_two_ne_zero.mp heven⟩⟩

/-- **ROUNDED BELOW** an integer is what is nearer to the one before it, or as near and
    that one is even. -/
theorem roundHalfEven_lt_iff {num den n : Nat} (hden : 0 < den) :
    roundHalfEven num den < n ↔
      2 * num + den < 2 * (n * den) ∨ (2 * num + den = 2 * (n * den) ∧ n % 2 = 1) := by
  have hnum := Nat.div_add_mod num den
  have hrest := Nat.mod_lt num hden
  have hrounded := roundHalfEven_cases num den
  generalize num / den = q at hnum hrounded
  generalize num % den = r at hnum hrest hrounded
  rcases Nat.lt_trichotomy n (q + 1) with hn | rfl | hn
  · have hle : n * den ≤ den * q := by
      rw [Nat.mul_comm den]
      exact Nat.mul_le_mul_right den (Nat.le_of_lt_succ hn)
    omega
  · rw [Nat.add_one_mul q, Nat.mul_comm q]
    omega
  · have hle : den * q + 2 * den ≤ n * den := by
      rw [Nat.mul_comm den, ← Nat.add_mul]
      exact Nat.mul_le_mul_right den hn
    omega

/-- An integer that a quotient reaches is reached by the rounded quotient. -/
theorem le_roundHalfEven {num den n : Nat} (hden : 0 < den) (h : n * den ≤ num) :
    n ≤ roundHalfEven num den := by
  rw [← Nat.not_lt, roundHalfEven_lt_iff hden]
  omega

/-- An integer is what a quotient is rounded to that is less than a half above it. -/
theorem roundHalfEven_eq {num den n : Nat} (hden : 0 < den) (hle : n * den ≤ num)
    (hlt : 2 * num < 2 * (n * den) + den) : roundHalfEven num den = n := by
  refine Nat.le_antisymm (Nat.le_of_lt_add_one ?_) (le_roundHalfEven hden hle)
  rw [roundHalfEven_lt_iff hden, Nat.add_one_mul n]
  omega

namespace Magnitude

/-! ## Leading bits -/

/-- A power of two with an integer as its exponent may be written with any two natural
    numbers of that difference. -/
theorem scaled_le_iff {num den u v : Nat} {k : Int} (hk : k = u - v) :
    den * 2 ^ k.toNat ≤ num * 2 ^ (-k).toNat ↔ den * 2 ^ u ≤ num * 2 ^ v := by
  by_cases h : v ≤ u
  · have hpos : k.toNat = u - v := by omega
    have hneg : (-k).toNat = 0 := by omega
    have hpow : 2 ^ u = 2 ^ (u - v) * 2 ^ v := by rw [← Nat.pow_add, Nat.sub_add_cancel h]
    rw [hpos, hneg, Nat.pow_zero, Nat.mul_one, hpow, ← Nat.mul_assoc,
      Nat.mul_le_mul_right_iff (Nat.two_pow_pos v)]
  · have hpos : k.toNat = 0 := by omega
    have hneg : (-k).toNat = v - u := by omega
    have hpow : 2 ^ v = 2 ^ (v - u) * 2 ^ u := by
      rw [← Nat.pow_add, Nat.sub_add_cancel (Nat.le_of_not_le h)]
    rw [hpos, hneg, Nat.pow_zero, Nat.mul_one, hpow, ← Nat.mul_assoc,
      Nat.mul_le_mul_right_iff (Nat.two_pow_pos u)]

/-- **THE LEADING BIT** of a quotient is the largest power of two that it reaches. -/
theorem le_leadingBit_iff {num den : Nat} (hnum : 0 < num) (hden : 0 < den) (j : Int) :
    j ≤ leadingBit num den ↔ den * 2 ^ j.toNat ≤ num * 2 ^ (-j).toNat := by
  -- all exponents are written over the same `v`, so that powers can be compared
  have hmono : ∀ {i j : Int}, i ≤ j → den * 2 ^ j.toNat ≤ num * 2 ^ (-j).toNat →
      den * 2 ^ i.toNat ≤ num * 2 ^ (-i).toNat := by
    intro i j hij hj
    let v := (-i).toNat
    rw [scaled_le_iff (show j = ((j + v).toNat : Nat) - (v : Nat) by omega)] at hj
    rw [scaled_le_iff (show i = ((i + v).toNat : Nat) - (v : Nat) by omega)]
    refine Nat.le_trans (Nat.mul_le_mul_left den ?_) hj
    exact Nat.pow_le_pow_right (by decide) (by omega)
  have hnumLog := Nat.log2_self_le (Nat.ne_of_gt hnum)
  have hdenLog := Nat.log2_self_le (Nat.ne_of_gt hden)
  have hnumLt := Nat.lt_log2_self (n := num)
  have hdenLt := Nat.lt_log2_self (n := den)
  -- the difference of the logarithms is at most one too large, and never too small
  have habove : ¬ den * 2 ^ ((num.log2 : Int) - den.log2 + 1).toNat
      ≤ num * 2 ^ (-((num.log2 : Int) - den.log2 + 1)).toNat := by
    rw [scaled_le_iff (u := num.log2 + 1) (v := den.log2) (by omega), Nat.not_le, Nat.mul_comm den]
    exact Nat.mul_lt_mul_of_lt_of_le hnumLt hdenLog hden
  have hbelow : den * 2 ^ ((num.log2 : Int) - den.log2 - 1).toNat
      ≤ num * 2 ^ (-((num.log2 : Int) - den.log2 - 1)).toNat := by
    rw [scaled_le_iff (u := num.log2) (v := den.log2 + 1) (by omega), Nat.mul_comm den]
    exact Nat.mul_le_mul hnumLog (Nat.le_of_lt hdenLt)
  rw [leadingBit]
  by_cases htop : den * 2 ^ ((num.log2 : Int) - den.log2).toNat
      ≤ num * 2 ^ (-((num.log2 : Int) - den.log2)).toNat
  · rw [if_pos htop]
    constructor
    · intro hj
      exact hmono hj htop
    · intro hj
      by_cases hle : j ≤ (num.log2 : Int) - den.log2
      · exact hle
      · exact absurd (hmono (by omega) hj) habove
  · rw [if_neg htop]
    constructor
    · intro hj
      exact hmono hj hbelow
    · intro hj
      by_cases hle : j ≤ (num.log2 : Int) - den.log2 - 1
      · exact hle
      · exact absurd (hmono (by omega) hj) htop

/-- A quotient with a positive integer part has that part's leading bit. -/
theorem leadingBit_eq_log2 {num den d : Nat} (hd : 0 < d) (hle : d * den ≤ num)
    (hlt : num < (d + 1) * den) : leadingBit num den = d.log2 := by
  have hden : 0 < den := Nat.pos_of_mul_pos_left (Nat.lt_of_le_of_lt (Nat.zero_le _) hlt)
  have hnum : 0 < num := Nat.lt_of_lt_of_le (Nat.mul_pos hd hden) hle
  have hlow := Nat.log2_self_le (Nat.ne_of_gt hd)
  have hhigh := Nat.lt_log2_self (n := d)
  have hreach : (d.log2 : Int) ≤ leadingBit num den := by
    rw [le_leadingBit_iff hnum hden, scaled_le_iff (u := d.log2) (v := 0) (by omega), Nat.pow_zero,
      Nat.mul_one, Nat.mul_comm]
    exact Nat.le_trans (Nat.mul_le_mul_right den hlow) hle
  have hstop : ¬ (d.log2 : Int) + 1 ≤ leadingBit num den := by
    rw [le_leadingBit_iff hnum hden, scaled_le_iff (u := d.log2 + 1) (v := 0) (by omega),
      Nat.pow_zero, Nat.mul_one, Nat.not_le, Nat.mul_comm]
    exact Nat.lt_of_lt_of_le hlt (Nat.mul_le_mul_right den hhigh)
  omega

/-! ## Integer parts -/

/-- **THE NEAREST VALUE** is a number of steps of the size that the leading bit tells, also
    if it is written with the next size. -/
theorem ratio_ofRatio? {num den : Nat} {e : Int} (hnum : 0 < num)
    (he : e = max (leadingBit num den - 52) (-1074)) (hsmall : e < 971) :
    ∃ m, ofRatio? num den = some m ∧ 0 < m.ratio.2 ∧
      m.ratio.1 * 2 ^ (-e).toNat
        = roundHalfEven (num * 2 ^ (-e).toNat) (den * 2 ^ e.toNat) * 2 ^ e.toNat * m.ratio.2 := by
  rw [ofRatio?, if_neg (Nat.ne_of_gt hnum), ← he]
  dsimp only
  generalize roundHalfEven (num * 2 ^ (-e).toNat) (den * 2 ^ e.toNat) = mant
  by_cases hcarry : mant = 2 ^ 53
  · rw [if_pos hcarry]
    dsimp only
    rw [if_neg (by omega)]
    refine ⟨_, rfl, Nat.two_pow_pos _, ?_⟩
    show 2 ^ 52 * 2 ^ (e + 1).toNat * 2 ^ (-e).toNat
      = mant * 2 ^ e.toNat * 2 ^ (-(e + 1)).toNat
    have hscale : 2 ^ ((e + 1).toNat + (-e).toNat) = 2 ^ (1 + e.toNat + (-(e + 1)).toNat) := by
      congr 1
      omega
    rw [hcarry, Nat.mul_assoc, ← Nat.pow_add, hscale, Nat.pow_add, Nat.pow_add, ← Nat.mul_assoc,
      ← Nat.mul_assoc, ← Nat.pow_add]
  · rw [if_neg hcarry]
    dsimp only
    rw [if_neg (by omega)]
    refine ⟨_, rfl, Nat.two_pow_pos _, rfl⟩

/-- Its integer part is that number scaled. -/
theorem floor_ofRatio? {num den : Nat} {e : Int} (hnum : 0 < num)
    (he : e = max (leadingBit num den - 52) (-1074)) (hsmall : e < 971) :
    ∃ m, ofRatio? num den = some m ∧
      m.floor = roundHalfEven (num * 2 ^ (-e).toNat) (den * 2 ^ e.toNat) * 2 ^ e.toNat
        / 2 ^ (-e).toNat := by
  obtain ⟨m, hm, hpos, hratio⟩ := ratio_ofRatio? hnum he hsmall
  refine ⟨m, hm, ?_⟩
  rw [floor, ← Nat.mul_div_mul_right m.ratio.1 _ (Nat.two_pow_pos (-e).toNat), hratio,
    Nat.mul_comm m.ratio.2, Nat.mul_div_mul_right _ _ hpos]

/-- A quotient between `d` and `d + 1`, counted in steps of `1 / 2 ^ s`, keeps its integer
    part unless less than half a step is missing to `d + 1`. -/
theorem roundHalfEven_div_eq_iff {num den d : Nat} (s : Nat) (hle : d * den ≤ num)
    (hlt : num < (d + 1) * den) :
    roundHalfEven (num * 2 ^ s) den / 2 ^ s = d ↔
      den < ((d + 1) * den - num) * 2 ^ (s + 1) ∨
        (den = ((d + 1) * den - num) * 2 ^ (s + 1) ∧ (d + 1) * 2 ^ s % 2 = 1) := by
  have hden : 0 < den := Nat.pos_of_mul_pos_left (Nat.lt_of_le_of_lt (Nat.zero_le _) hlt)
  have hreached : d * 2 ^ s ≤ roundHalfEven (num * 2 ^ s) den := by
    refine le_roundHalfEven hden ?_
    rw [Nat.mul_right_comm]
    exact Nat.mul_le_mul_right _ hle
  have hgap : num * 2 ^ s + ((d + 1) * den - num) * 2 ^ s = (d + 1) * 2 ^ s * den := by
    rw [← Nat.add_mul, Nat.add_sub_cancel' (Nat.le_of_lt hlt), Nat.mul_right_comm]
  have hkept : roundHalfEven (num * 2 ^ s) den / 2 ^ s = d ↔
      roundHalfEven (num * 2 ^ s) den < (d + 1) * 2 ^ s := by
    rw [Nat.div_eq_iff (Nat.two_pow_pos s), Nat.add_one_mul]
    have hpos := Nat.two_pow_pos s
    omega
  rw [hkept, roundHalfEven_lt_iff hden, Nat.pow_succ,
    ← Nat.mul_assoc ((d + 1) * den - num)]
  omega

/-- A positive number has one binary digit more than its leading bit says. -/
theorem size_eq_log2 {d : Nat} (hd : 0 < d) : d.size = d.log2 + 1 := by
  have hne := Nat.ne_of_gt hd
  refine Nat.le_antisymm (Nat.size_le.mpr Nat.lt_log2_self) ?_
  exact Nat.lt_size.mpr (Nat.log2_self_le hne)

/-- The integer part of a quotient between zero and one is kept unless half a step of
    `1 / 2 ^ 53` or less is missing to one. -/
theorem floor_ofRatio?_of_lt_one {num den : Nat} (hnum : 0 < num) (hlt : num < den) :
    ∃ m, ofRatio? num den = some m ∧ (m.floor = 0 ↔ den < (den - num) * 2 ^ 54) := by
  have hden : 0 < den := Nat.lt_trans hnum hlt
  have hzero : ¬ (0 : Int) ≤ leadingBit num den := by
    rw [le_leadingBit_iff hnum hden, scaled_le_iff (u := 0) (v := 0) (by omega)]
    omega
  have hhalf := (le_leadingBit_iff hnum hden (-1)).trans
    (scaled_le_iff (u := 0) (v := 1) (by omega))
  obtain ⟨e, he⟩ : ∃ e, e = max (leadingBit num den - 52) (-1074) := ⟨_, rfl⟩
  obtain ⟨m, hm, hfloor⟩ := floor_ofRatio? hnum he (by omega)
  refine ⟨m, hm, ?_⟩
  obtain ⟨s, hs⟩ : ∃ s, (-e).toNat = s + 1 := ⟨(-e).toNat - 1, by omega⟩
  have hwhole : e.toNat = 0 := by omega
  have hiff := roundHalfEven_div_eq_iff (d := 0) (s + 1) (by omega) (by omega : num < (0 + 1) * den)
  have hodd : ¬ (0 + 1) * 2 ^ (s + 1) % 2 = 1 := by
    rw [Nat.pow_succ]
    omega
  rw [hfloor, hwhole, hs, Nat.pow_zero, Nat.mul_one, Nat.mul_one, hiff, Nat.zero_add, Nat.one_mul,
    or_iff_left (fun h => hodd h.2)]
  by_cases hstep : leadingBit num den = -1
  · have hs' : s + 1 + 1 = 54 := by omega
    rw [hs']
  · -- far below one the steps are smaller still, and nothing is rounded up to one
    have hsmall : num * 2 < den := by omega
    have hall : ∀ k, den < (den - num) * 2 ^ (k + 1) := by
      intro k
      have hpow := Nat.mul_le_mul_left (den - num) (Nat.pow_le_pow_right (by decide)
        (Nat.le_add_left 1 k) : 2 ^ 1 ≤ 2 ^ (k + 1))
      omega
    exact ⟨fun _ => hall 53, fun _ => hall (s + 1)⟩

/-- The integer part of a quotient above one is kept as long as there are values between
    it and the next integer, unless half a step or less is missing to that one; where the
    values are the integers themselves, a half goes to the even one. -/
theorem floor_ofRatio?_of_lt {num den d : Nat} (hd : 0 < d) (hsmall : d < 2 ^ 53)
    (hle : d * den ≤ num) (hlt : num < (d + 1) * den) :
    ∃ m, ofRatio? num den = some m ∧
      (m.floor = d ↔ den < ((d + 1) * den - num) * 2 ^ (54 - d.size) ∨
        (den = ((d + 1) * den - num) * 2 ∧ d.size = 53 ∧ d % 2 = 0)) := by
  have hden : 0 < den := Nat.pos_of_mul_pos_left (Nat.lt_of_le_of_lt (Nat.zero_le _) hlt)
  have hnum : 0 < num := Nat.lt_of_lt_of_le (Nat.mul_pos hd hden) hle
  have hlog : d.log2 < 53 := (Nat.log2_lt (Nat.ne_of_gt hd)).mpr hsmall
  have hsize := size_eq_log2 hd
  have hlead := leadingBit_eq_log2 hd hle hlt
  have hexp : (d.log2 : Int) - 52 = max (leadingBit num den - 52) (-1074) := by omega
  obtain ⟨m, hm, hfloor⟩ := floor_ofRatio? hnum hexp (by omega)
  refine ⟨m, hm, ?_⟩
  have hwhole : ((d.log2 : Int) - 52).toNat = 0 := by omega
  have hsteps : (-((d.log2 : Int) - 52)).toNat = 52 - d.log2 := by omega
  have hscale : 52 - d.log2 + 1 = 54 - d.size := by omega
  rw [hfloor, hwhole, hsteps, Nat.pow_zero, Nat.mul_one, Nat.mul_one,
    roundHalfEven_div_eq_iff (52 - d.log2) hle hlt, hscale]
  refine or_congr_right ?_
  by_cases htop : d.log2 = 52
  · have hone : 54 - d.size = 1 := by omega
    rw [hone, htop, Nat.sub_self, Nat.pow_zero, Nat.pow_one, Nat.mul_one]
    omega
  · obtain ⟨k, hk⟩ : ∃ k, 52 - d.log2 = k + 1 := ⟨51 - d.log2, by omega⟩
    rw [hk, Nat.pow_succ, ← Nat.mul_assoc]
    omega

/-- From `2 ^ 53` on the values are multiples of a power of two, and a quotient whose
    integer part is one keeps it.  Cut at the largest word, the largest integer part is
    kept, too. -/
theorem floor_ofRatio?_of_le {num den d : Nat} (hlarge : 2 ^ 53 ≤ d) (hword : d < 2 ^ 64)
    (hle : d * den ≤ num) (hlt : num < (d + 1) * den) :
    ∃ m, ofRatio? num den = some m ∧
      (min m.floor (2 ^ 64 - 1) = d ↔ 2 ^ (d.size - 53) ∣ d ∨ d = 2 ^ 64 - 1) := by
  have hd : 0 < d := Nat.lt_of_lt_of_le (by decide) hlarge
  have hden : 0 < den := Nat.pos_of_mul_pos_left (Nat.lt_of_le_of_lt (Nat.zero_le _) hlt)
  have hnum : 0 < num := Nat.lt_of_lt_of_le (Nat.mul_pos hd hden) hle
  have hlow : 53 ≤ d.log2 := (Nat.le_log2 (Nat.ne_of_gt hd)).mpr hlarge
  have hhigh : d.log2 < 64 := (Nat.log2_lt (Nat.ne_of_gt hd)).mpr hword
  have hsize := size_eq_log2 hd
  have hlead := leadingBit_eq_log2 hd hle hlt
  have hexp : (d.log2 : Int) - 52 = max (leadingBit num den - 52) (-1074) := by omega
  obtain ⟨m, hm, hfloor⟩ := floor_ofRatio? hnum hexp (by omega)
  refine ⟨m, hm, ?_⟩
  have hsteps : ((d.log2 : Int) - 52).toNat = d.size - 53 := by omega
  have hnone : (-((d.log2 : Int) - 52)).toNat = 0 := by omega
  rw [hsteps, hnone, Nat.pow_zero, Nat.mul_one, Nat.div_one] at hfloor
  rw [Nat.add_one_mul] at hlt
  have hunit : 0 < den * 2 ^ (d.size - 53) := Nat.mul_pos hden (Nat.two_pow_pos _)
  constructor
  · intro hkept
    by_cases hcut : m.floor ≤ 2 ^ 64 - 1
    · rw [Nat.min_eq_left hcut, hfloor] at hkept
      exact .inl ⟨_, hkept.symm.trans (Nat.mul_comm _ _)⟩
    · rw [Nat.min_eq_right (Nat.le_of_not_le hcut)] at hkept
      exact .inr hkept.symm
  · rintro (⟨c, hc⟩ | hlast)
    · have hmultiple : c * (den * 2 ^ (d.size - 53)) = d * den := by
        rw [Nat.mul_comm den, ← Nat.mul_assoc, Nat.mul_comm c]
        exact congrArg (· * den) hc.symm
      have heven : den * 2 ≤ den * 2 ^ (d.size - 53) :=
        Nat.mul_le_mul_left den (Nat.pow_le_pow_right (by decide) (by omega) : 2 ^ 1 ≤ _)
      have hround : roundHalfEven num (den * 2 ^ (d.size - 53)) = c :=
        roundHalfEven_eq hunit (by omega) (by omega)
      rw [hfloor, hround, Nat.mul_comm c, ← hc]
      omega
    · -- the largest word is rounded up to `2 ^ 64`, and then cut
      have hstep : d.size - 53 = 11 := by
        rw [hlast]
        decide
      have hreached : (2 ^ 64 - 1) * den ≤ num := hlast ▸ hle
      have hround : 2 ^ 53 ≤ roundHalfEven num (den * 2 ^ 11) := by
        rw [← Nat.not_lt, roundHalfEven_lt_iff (by omega)]
        omega
      rw [hfloor, hstep]
      omega

/-- Rounded to the nearest value, and cut at the largest word, a number with the integer
    part `d` that is `gap / den` below the next integer **KEEPS ITS INTEGER PART**: below
    `2 ^ 53` more than half the spacing of the values there must be missing to the next
    integer, or just half where they are the integers and `d` is even; from there on `d`
    must be a multiple of the spacing, or the largest word. -/
def KeepsFloor (d gap den : Nat) : Prop :=
  (d < 2 ^ 53 ∧
    (den < gap * 2 ^ (54 - d.size) ∨ (den = gap * 2 ∧ d.size = 53 ∧ d % 2 = 0))) ∨
  (2 ^ 53 ≤ d ∧ (2 ^ (d.size - 53) ∣ d ∨ d = 2 ^ 64 - 1))

instance (d gap den : Nat) : Decidable (KeepsFloor d gap den) :=
  inferInstanceAs (Decidable (_ ∨ _))

/-- **INTEGER PARTS** of quotients below `2 ^ 64`. -/
theorem floor_ofRatio?_iff {num den d : Nat} (hnum : 0 < num) (hword : d < 2 ^ 64)
    (hle : d * den ≤ num) (hlt : num < (d + 1) * den) :
    ∃ m, ofRatio? num den = some m ∧
      (min m.floor (2 ^ 64 - 1) = d ↔ KeepsFloor d ((d + 1) * den - num) den) := by
  by_cases hlarge : 2 ^ 53 ≤ d
  · obtain ⟨m, hm, hkept⟩ := floor_ofRatio?_of_le hlarge hword hle hlt
    refine ⟨m, hm, hkept.trans ⟨fun h => .inr ⟨hlarge, h⟩, ?_⟩⟩
    rintro (⟨hsmall, -⟩ | ⟨-, h⟩)
    · exact absurd hlarge (Nat.not_le.mpr hsmall)
    · exact h
  · have hsmall := Nat.lt_of_not_le hlarge
    have hcut : ∀ n, min n (2 ^ 64 - 1) = d ↔ n = d := by omega
    rw [KeepsFloor, and_iff_right hsmall, or_iff_left (fun h => hlarge h.1)]
    simp only [hcut]
    rcases Nat.eq_zero_or_pos d with rfl | hd
    · rw [Nat.zero_add, Nat.one_mul] at hlt ⊢
      obtain ⟨m, hm, hkept⟩ := floor_ofRatio?_of_lt_one hnum hlt
      refine ⟨m, hm, ?_⟩
      have hnot : ¬ Nat.size 0 = 53 := by decide
      rw [hkept, or_iff_left (fun h => hnot h.2.1), Nat.size_zero]
    · exact floor_ofRatio?_of_lt hd hsmall hle hlt

/-! ## Decimals -/

/-- Less than a half keeps zero as its integer part. -/
theorem keepsFloor_zero {gap den : Nat} (hden : 0 < den) (hgap : den < gap * 2) :
    KeepsFloor 0 gap den := by
  refine .inl ⟨by decide, .inl ?_⟩
  rw [Nat.size_zero]
  omega

/-- **INTEGER PARTS** of decimals below `2 ^ 64`, with as many digits behind the point as
    there may be. -/
theorem floor_ofDecimal?_iff {d f n : Nat} (hf : f < 10 ^ n) (hword : d < 2 ^ 64) :
    ∃ m, ofDecimal? (d * 10 ^ n + f) (-(n : Int)) = some m ∧
      (min m.floor (2 ^ 64 - 1) = d ↔ KeepsFloor d (10 ^ n - f) (10 ^ n)) := by
  have hunit : 0 < 10 ^ n := Nat.pow_pos (by decide)
  rw [ofDecimal?]
  by_cases hzero : d * 10 ^ n + f = 0
  · rw [if_pos hzero]
    obtain ⟨hd, rfl⟩ := Nat.add_eq_zero_iff.mp hzero
    obtain rfl : d = 0 := (Nat.mul_eq_zero.mp hd).resolve_right (Nat.ne_of_gt hunit)
    exact ⟨zero, rfl, fun _ => keepsFloor_zero hunit (by omega), fun _ => rfl⟩
  · rw [if_neg hzero]
    -- a word has at most twenty digits before the point
    have hlength : (Nat.toDigits 10 (d * 10 ^ n + f)).length ≤ 20 + n := by
      rw [Nat.length_toDigits_le_iff (by decide) (by omega), Nat.pow_add]
      calc d * 10 ^ n + f < d * 10 ^ n + 10 ^ n := Nat.add_lt_add_left hf _
        _ = (d + 1) * 10 ^ n := (Nat.add_one_mul d _).symm
        _ ≤ 10 ^ 20 * 10 ^ n := Nat.mul_le_mul_right _ (by omega)
    dsimp only
    rw [if_neg (by omega)]
    by_cases htiny : ((Nat.toDigits 10 (d * 10 ^ n + f)).length : Int) + -(n : Int) < -330
    · rw [if_pos htiny]
      have hpos : 0 < (Nat.toDigits 10 (d * 10 ^ n + f)).length := Nat.length_toDigits_pos
      have hshort : d * 10 ^ n + f < 10 ^ (n - 1) := by
        rw [← Nat.length_toDigits_le_iff (by decide) (by omega)]
        omega
      have hscale : 10 ^ n = 10 ^ (n - 1) * 10 := by
        rw [← Nat.pow_succ]
        congr 1
        omega
      have hd : d = 0 := by
        refine Nat.eq_zero_of_not_pos fun hd => ?_
        have hle := Nat.le_mul_of_pos_left (10 ^ n) hd
        omega
      subst hd
      exact ⟨zero, rfl, fun _ => keepsFloor_zero hunit (by omega), fun _ => rfl⟩
    · rw [if_neg htiny, Int.toNat_neg_natCast, Int.neg_neg, Int.toNat_natCast, Nat.pow_zero,
        Nat.mul_one]
      have hgap : (d + 1) * 10 ^ n - (d * 10 ^ n + f) = 10 ^ n - f := by
        rw [Nat.add_one_mul]
        omega
      rw [← hgap]
      refine floor_ofRatio?_iff (Nat.pos_of_ne_zero hzero) hword (Nat.le_add_right _ _) ?_
      rw [Nat.add_one_mul]
      exact Nat.add_lt_add_left hf _

end Magnitude

end BenchSweep
