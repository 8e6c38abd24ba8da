import BenchSweep.Binary64.Read
import Mathlib.Data.List.TakeDrop

/-! # Reading numerals back

    The digits of a number are read back as that number (`value?_decimal`), they are
    all that a reader of digits takes from the front of a text that goes on with
    something else (`Binary64.spanDigits_append`), and only zero begins with a zero
    (`decimal_eq_zero_cons`). -/

namespace BenchSweep.Text

theorem toList_toString (n : Nat) : (toString n).toList = decimal n := by
  rw [Nat.toString_eq_ofList_toDigits, String.toList_ofList, decimal]

theorem decimal_ne_nil (n : Nat) : decimal n ≠ [] := Nat.toDigits_ne_nil

theorem isDigit_of_mem_decimal {n : Nat} {c : Char} (hc : c ∈ decimal n) : c.isDigit = true :=
  Nat.isDigit_of_mem_toDigits (by decide) (by decide) hc

/-- Digits are neither separators nor letters. -/
theorem not_mem_decimal {n : Nat} {c : Char} (hc : c.isDigit = false) : c ∉ decimal n :=
  fun h => nomatch (isDigit_of_mem_decimal h).symm.trans hc

/-- A digit lies in the range of digits. -/
theorem isDigit_iff (c : Char) : c.isDigit = true ↔ '0' ≤ c ∧ c ≤ '9' := by
  rw [Char.isDigit, Bool.and_eq_true, decide_eq_true_iff, decide_eq_true_iff]
  exact Iff.rfl

theorem digit?_of_isDigit {c : Char} (hc : c.isDigit = true) :
    digit? 10 c = some (c.toNat - 48) := by
  have hrange := (isDigit_iff c).mp hc
  have hle : c.toNat ≤ 57 := UInt32.le_iff_toNat_le.mp hrange.2
  have hlt : c.toNat - 48 < 10 := by omega
  rw [digit?, if_pos hrange]
  simp only [Option.filter_some, hlt, decide_true, if_true]

/-- Digits have a value below the power of ten with as many zeros. -/
theorem ofDigitChars_lt {ds : List Char} (hds : ∀ d ∈ ds, d.isDigit = true) :
    Nat.ofDigitChars 10 ds 0 < 10 ^ ds.length := by
  induction ds with
  | nil => exact Nat.one_pos
  | cons d ds ih =>
      obtain ⟨hd, hds⟩ := List.forall_mem_cons.mp hds
      have hle : d.toNat ≤ 57 := UInt32.le_iff_toNat_le.mp ((isDigit_iff d).mp hd).2
      have hdigit : 10 * 0 + (d.toNat - '0'.toNat) ≤ 9 := by
        have hzero : '0'.toNat = 48 := rfl
        omega
      rw [Nat.ofDigitChars_cons, Nat.ofDigitChars_eq_ofDigitChars_zero, List.length_cons,
        Nat.pow_succ]
      have hscaled := Nat.mul_le_mul_left (10 ^ ds.length) hdigit
      have hrest := ih hds
      omega

/-- Digits are read one after the other, the most significant first. -/
theorem valueAfter?_eq_ofDigitChars {ds : List Char} (hds : ∀ d ∈ ds, d.isDigit = true)
    (acc : Nat) : valueAfter? 10 acc ds = some (Nat.ofDigitChars 10 ds acc) := by
  induction ds generalizing acc with
  | nil => rfl
  | cons d ds ih =>
      have htail : ∀ e ∈ ds, e.isDigit = true := fun e he => hds e (List.mem_cons_of_mem _ he)
      rw [valueAfter?, digit?_of_isDigit (hds d List.mem_cons_self)]
      show valueAfter? 10 (acc * 10 + (d.toNat - 48)) ds = _
      rw [ih htail, Nat.ofDigitChars_cons, Nat.mul_comm acc]
      rfl

/-- **A NUMERAL** is read back as the number it was written for. -/
theorem value?_decimal (n : Nat) : value? 10 (decimal n) = some n := by
  have hvalue : valueAfter? 10 0 (decimal n) = some n := by
    rw [valueAfter?_eq_ofDigitChars fun d hd => isDigit_of_mem_decimal hd, decimal,
      Nat.ofDigitChars_ten_toDigits]
  cases hdigits : decimal n with
  | nil => exact absurd hdigits (decimal_ne_nil n)
  | cons d ds =>
      rw [hdigits] at hvalue
      exact hvalue

/-- A numeral has no sign that could be left out. -/
theorem dropPlus_decimal (n : Nat) : dropPlus (decimal n) = decimal n := by
  unfold dropPlus
  split
  · next h => exact absurd (h ▸ List.mem_cons_self) (not_mem_decimal (n := n) (c := '+') rfl)
  · rfl

theorem numeralBelow?_decimal {n bound : Nat} (hn : n < bound) :
    numeralBelow? bound (decimal n) = some n := by
  rw [numeralBelow?, dropPlus_decimal, value?_decimal, Option.filter_some, if_pos (by simpa using hn)]

/-- Different numbers have different numerals. -/
theorem decimal_injective : Function.Injective decimal := by
  intro a b h
  rw [← Option.some_inj, ← value?_decimal a, h, value?_decimal]

theorem toString_injective : Function.Injective (toString : Nat → String) := by
  intro a b h
  have hdigits := congrArg String.toList h
  rw [toList_toString, toList_toString] at hdigits
  exact decimal_injective hdigits

/-- Only the numeral of zero begins with a zero. -/
theorem head_decimal_ne_zero {n : Nat} (hn : 0 < n) : (decimal n).head? ≠ some '0' := by
  induction n using Nat.strongRecOn with
  | ind n ih =>
      rw [decimal, Nat.toDigits_eq_if (by decide)]
      split
      · next hlt =>
          have hdigit : ∀ d : Fin 10, 0 < d.val → [Nat.digitChar d.val].head? ≠ some '0' := by
            decide
          exact hdigit ⟨n, hlt⟩ hn
      · next hge =>
          have hdigits : Nat.toDigits 10 (n / 10) ≠ [] := Nat.toDigits_ne_nil
          obtain ⟨d, ds, hcons⟩ := List.exists_cons_of_ne_nil hdigits
          have hhead := ih (n / 10) (by omega) (by omega)
          rw [decimal, hcons] at hhead
          rw [hcons]
          exact hhead

/-- A numeral that begins with a zero has no other digit. -/
theorem decimal_eq_zero_cons {n : Nat} {ds : List Char} (h : decimal n = '0' :: ds) :
    ds = [] := by
  rcases Nat.eq_zero_or_pos n with rfl | hn
  · exact (List.cons.inj h).2.symm
  · exact absurd (congrArg List.head? h) (head_decimal_ne_zero hn)

end BenchSweep.Text

namespace BenchSweep.Binary64

/-- What goes on with no digit leaves the digits before it as they are. -/
theorem spanDigits_append {ds rest : List Char} (hds : ∀ d ∈ ds, d.isDigit = true)
    (hrest : ∀ c ∈ rest.head?, c.isDigit = false) : spanDigits (ds ++ rest) = (ds, rest) := by
  have htest : (fun c : Char => decide ('0' ≤ c) && decide (c ≤ '9')) = Char.isDigit := by
    funext c
    rw [Bool.eq_iff_iff, Bool.and_eq_true, decide_eq_true_iff, decide_eq_true_iff,
      Text.isDigit_iff]
  have hstop : rest.takeWhile Char.isDigit = [] ∧ rest.dropWhile Char.isDigit = rest := by
    cases rest with
    | nil => exact ⟨rfl, rfl⟩
    | cons c cs =>
        have hc := hrest c rfl
        exact ⟨List.takeWhile_cons_of_neg (by simp [hc]), List.dropWhile_cons_of_neg (by simp [hc])⟩
  rw [spanDigits, List.span_eq_takeWhile_dropWhile, htest, List.takeWhile_append_of_pos hds,
    List.dropWhile_append_of_pos hds, hstop.1, hstop.2, List.append_nil]

end BenchSweep.Binary64
