import BenchSweep.Power

/-! # Counts in machine words

    What a run counts, it counts in 64-bit words.  A number that is no word cannot
    be counted (`word64?`), and the program breaks off where it would have to be. -/

namespace BenchSweep

/-- The largest 64-bit word. -/
def maxWord64 : Nat := 2 ^ 64 - 1

/-- A number as a 64-bit word, if it is one. -/
def word64? (n : Nat) : Option Nat := if n < 2 ^ 64 then some n else none

theorem word64?_eq_some_iff {n m : Nat} : word64? n = some m ↔ n < 2 ^ 64 ∧ n = m := by
  by_cases hn : n < 2 ^ 64
  · rw [word64?, if_pos hn, Option.some.injEq]
    exact ⟨fun h => ⟨hn, h⟩, And.right⟩
  · rw [word64?, if_neg hn]
    exact ⟨(fun h => nomatch h), fun h => absurd h.1 hn⟩

theorem word64?_of_lt {n : Nat} (hn : n < 2 ^ 64) : word64? n = some n := if_pos hn

theorem le_maxWord64_iff {n : Nat} : n ≤ maxWord64 ↔ n < 2 ^ 64 :=
  Nat.le_sub_one_iff_lt (by decide)

end BenchSweep
