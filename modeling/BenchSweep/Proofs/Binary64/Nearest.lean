import BenchSweep.Proofs.Binary64.Round
import Mathlib.Tactic.Ring

/-! # Rounding errors of quotients

    The nearest binary64 value of a quotient, and a quotient that is formed with such a
    value, are as exact as the format allows:

    * rounding to integers moves a quotient by a half at most (`roundHalfEven_le`,
      `le_roundHalfEven_add`);
    * away from the ends of the format's range, the nearest value of a quotient differs
      from it by its `2 ^ 53`rd part at most (`isNear_ofRatio?`);
    * two roundings in a row multiply what they may add or take (`IsNear.over`). -/

namespace BenchSweep

variable {num den : Nat}

/-- Rounding adds a half at most. -/
theorem roundHalfEven_le (num den : Nat) :
    2 * (roundHalfEven num den * den) ≤ 2 * num + den := by
  have hnum := Nat.div_add_mod' num den
  rcases roundHalfEven_cases num den with ⟨hround, -⟩ | ⟨hround, hrest⟩
  · rw [hround]
    omega
  · rw [hround, Nat.add_one_mul (num / den)]
    omega

/-- Rounding takes a half at most. -/
theorem le_roundHalfEven_add (num : Nat) (hden : 0 < den) :
    2 * num ≤ 2 * (roundHalfEven num den * den) + den := by
  have hnum := Nat.div_add_mod' num den
  have hlt := Nat.mod_lt num hden
  rcases roundHalfEven_cases num den with ⟨hround, hrest⟩ | ⟨hround, -⟩
  · rw [hround]
    omega
  · rw [hround, Nat.add_one_mul (num / den)]
    omega

namespace Magnitude

/-- A value is **NEAR** a quotient if it differs from it by the `2 ^ 53`rd part of the
    quotient at most. -/
structure IsNear (m : Magnitude) (num den : Nat) : Prop where
  le : 2 ^ 53 * (m.ratio.1 * den) ≤ (2 ^ 53 + 1) * (num * m.ratio.2)
  ge : (2 ^ 53 - 1) * (num * m.ratio.2) ≤ 2 ^ 53 * (m.ratio.1 * den)

theorem ratio_pos (m : Magnitude) : 0 < m.ratio.2 := Nat.two_pow_pos _

/-- **THE NEAREST VALUE** of a quotient is near it, unless the quotient is very large or very
    small. -/
theorem isNear_ofRatio? (hnum : 0 < num) (hden : 0 < den) (hlarge : num < den * 2 ^ 64)
    (hsmall : den ≤ num * 2 ^ 64) : ∃ m, ofRatio? num den = some m ∧ m.IsNear num den := by
  have hbelow : -64 ≤ leadingBit num den := by
    rw [le_leadingBit_iff hnum hden, scaled_le_iff (u := 0) (v := 64) (by omega)]
    omega
  have habove : ¬ 64 ≤ leadingBit num den := by
    rw [le_leadingBit_iff hnum hden, scaled_le_iff (u := 64) (v := 0) (by omega)]
    omega
  obtain ⟨e, he⟩ : ∃ e, e = leadingBit num den - 52 := ⟨_, rfl⟩
  have hexp : e = max (leadingBit num den - 52) (-1074) := by omega
  obtain ⟨m, hm, -, hratio⟩ := ratio_ofRatio? hnum hexp (by omega)
  -- the quotient reaches `2 ^ 52` steps, so half a step is its `2 ^ 53`rd part at most
  have hreach : den * 2 ^ (e.toNat + 52) ≤ num * 2 ^ (-e).toNat := by
    rw [← scaled_le_iff (k := leadingBit num den) (by omega), ← le_leadingBit_iff hnum hden]
  rw [Nat.pow_add, ← Nat.mul_assoc] at hreach
  have hpos : 0 < den * 2 ^ e.toNat := Nat.mul_pos hden (Nat.two_pow_pos _)
  have hup := roundHalfEven_le (num * 2 ^ (-e).toNat) (den * 2 ^ e.toNat)
  have hdown := le_roundHalfEven_add (num * 2 ^ (-e).toNat) hpos
  have hscale : 0 < 2 ^ (-e).toNat := Nat.two_pow_pos _
  generalize roundHalfEven (num * 2 ^ (-e).toNat) (den * 2 ^ e.toNat) = steps at hratio hup hdown
  generalize 2 ^ (-e).toNat = scale at hratio hreach hup hdown hscale
  generalize 2 ^ e.toNat = size at hratio hreach hup hdown
  have hvalue : m.ratio.1 * den * scale = steps * (den * size) * m.ratio.2 := by
    rw [Nat.mul_right_comm, hratio]
    ring
  have hle : 2 ^ 53 * (steps * (den * size)) ≤ (2 ^ 53 + 1) * (num * scale) := by omega
  have hge : (2 ^ 53 - 1) * (num * scale) ≤ 2 ^ 53 * (steps * (den * size)) := by omega
  refine ⟨m, hm, Nat.le_of_mul_le_mul_right ?_ hscale, Nat.le_of_mul_le_mul_right ?_ hscale⟩
  · calc 2 ^ 53 * (m.ratio.1 * den) * scale
        = 2 ^ 53 * (steps * (den * size)) * m.ratio.2 := by
          rw [Nat.mul_assoc, hvalue, ← Nat.mul_assoc]
      _ ≤ (2 ^ 53 + 1) * (num * scale) * m.ratio.2 := Nat.mul_le_mul_right _ hle
      _ = (2 ^ 53 + 1) * (num * m.ratio.2) * scale := by ring
  · calc (2 ^ 53 - 1) * (num * m.ratio.2) * scale
        = (2 ^ 53 - 1) * (num * scale) * m.ratio.2 := by ring
      _ ≤ 2 ^ 53 * (steps * (den * size)) * m.ratio.2 := Nat.mul_le_mul_right _ hge
      _ = 2 ^ 53 * (m.ratio.1 * den) * scale := by
          rw [Nat.mul_assoc, ← hvalue, ← Nat.mul_assoc]

/-- **TWO ROUNDINGS**: a value near a quotient, divided by a number, has a value near it
    that differs from the quotient itself by what both roundings may add or take. -/
theorem IsNear.over {m m' : Magnitude} {divisor : Nat} (h : m.IsNear num den)
    (h' : m'.IsNear m.ratio.1 (m.ratio.2 * divisor)) :
    (2 ^ 53 * 2 ^ 53) * (m'.ratio.1 * (den * divisor))
        ≤ ((2 ^ 53 + 1) * (2 ^ 53 + 1)) * (num * m'.ratio.2) ∧
      ((2 ^ 53 - 1) * (2 ^ 53 - 1)) * (num * m'.ratio.2)
        ≤ (2 ^ 53 * 2 ^ 53) * (m'.ratio.1 * (den * divisor)) := by
  obtain ⟨hle, hge⟩ := h
  obtain ⟨hle', hge'⟩ := h'
  have hpos := m.ratio_pos
  generalize 2 ^ 53 + 1 = more at hle hle' ⊢
  generalize 2 ^ 53 - 1 = less at hge hge' ⊢
  generalize 2 ^ 53 = whole at hle hge hle' hge' ⊢
  refine ⟨Nat.le_of_mul_le_mul_right ?_ hpos, Nat.le_of_mul_le_mul_right ?_ hpos⟩
  · calc whole * whole * (m'.ratio.1 * (den * divisor)) * m.ratio.2
        = whole * den * (whole * (m'.ratio.1 * (m.ratio.2 * divisor))) := by ring
      _ ≤ whole * den * (more * (m.ratio.1 * m'.ratio.2)) := Nat.mul_le_mul_left _ hle'
      _ = more * m'.ratio.2 * (whole * (m.ratio.1 * den)) := by ring
      _ ≤ more * m'.ratio.2 * (more * (num * m.ratio.2)) := Nat.mul_le_mul_left _ hle
      _ = more * more * (num * m'.ratio.2) * m.ratio.2 := by ring
  · calc less * less * (num * m'.ratio.2) * m.ratio.2
        = less * m'.ratio.2 * (less * (num * m.ratio.2)) := by ring
      _ ≤ less * m'.ratio.2 * (whole * (m.ratio.1 * den)) := Nat.mul_le_mul_left _ hge
      _ = whole * den * (less * (m.ratio.1 * m'.ratio.2)) := by ring
      _ ≤ whole * den * (whole * (m'.ratio.1 * (m.ratio.2 * divisor))) :=
          Nat.mul_le_mul_left _ hge'
      _ = whole * whole * (m'.ratio.1 * (den * divisor)) * m.ratio.2 := by ring

end Magnitude

end BenchSweep
