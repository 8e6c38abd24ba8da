/-! # Repeated elements

    Lists of settings must not repeat an element.  The scan finds the first
    element that equals an earlier one. -/

namespace BenchSweep

variable {α κ : Type} [DecidableEq κ]

/-- The first element of a list whose key occurs among `seen` or among the keys
    of the elements before it. -/
def firstRepeatAfter? (key : α → κ) (seen : List κ) : List α → Option α
  | []      => none
  | x :: xs =>
      if key x ∈ seen then some x
      else firstRepeatAfter? key (key x :: seen) xs

/-- The first element of a list whose key an earlier element has too. -/
def firstRepeat? (key : α → κ) (xs : List α) : Option α :=
  firstRepeatAfter? key [] xs

end BenchSweep
