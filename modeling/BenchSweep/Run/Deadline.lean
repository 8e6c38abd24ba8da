import BenchSweep.Settings.Validate

/-! # Deadlines

    A trial that is still running after a multiple of its length is stopped.
    Deadlines count seconds as a 64-bit word and nanoseconds below a thousand
    million; what does not fit is cut to the largest deadline. -/

namespace BenchSweep

/-- A stretch of time. -/
structure Span where
  secs  : Nat
  nanos : Nat
deriving DecidableEq, Repr

namespace Span

/-- The longest stretch. -/
def longest : Span := ⟨2 ^ 64 - 1, 999999999⟩

/-- A number of milliseconds. -/
def ofMillis (ms : Nat) : Span := ⟨ms / 1000, ms % 1000 * 1000000⟩

/-- A number of seconds; the longest stretch if they do not fit. -/
def ofSecs (secs : Nat) : Span :=
  if secs < 2 ^ 64 then ⟨secs, 0⟩ else longest

/-- The whole milliseconds of a stretch, as a 64-bit word. -/
def millis (s : Span) : UInt64 :=
  UInt64.ofNat (s.secs * 1000 + s.nanos / 1000000)

end Span

/-- The deadline of trials: a multiple of their length, at least the length
    itself. -/
def deadline (duration : TrialDuration) (multiplier : UInt32) : Span :=
  Span.ofSecs (duration.secs.toNat * max multiplier.toNat 1)

/-- The deadline of a configuration's trials. -/
def Config.deadline (config : Config) : Span :=
  BenchSweep.deadline config.sweep.duration config.runner.timeoutMultiplier

end BenchSweep
