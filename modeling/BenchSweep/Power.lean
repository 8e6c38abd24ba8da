/-! # Powers

    Bounds of machine words and exact fractions are written with powers of natural
    numbers.  A power of a natural number is the one that the core library
    computes, whatever else a module imports. -/

namespace BenchSweep

@[default_instance 20000]
instance (priority := 20000) natPow : Pow Nat Nat := instPowNat

end BenchSweep
