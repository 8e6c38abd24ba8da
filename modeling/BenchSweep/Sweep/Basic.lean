import BenchSweep.Sweep.Dimensions
import BenchSweep.Sweep.Trial
import BenchSweep.Word

/-! # Sweeps

    The sweep of a suite over given dimensions: every variant at every thread
    count and every ratio, each repeated.  Two descriptions of it stand side by
    side:

    * `Sweep.trials` — the nested product, repetitions innermost;
    * `Sweep.trialAt?` and `Cursor` — a position counted through from zero and
      decoded digit by digit, which is how a run walks along the sweep.

    Counts are 64-bit words.  A sweep with more trials than a word can count has no
    length, and nothing can walk along it. -/

namespace BenchSweep

/-- A suite together with the dimensions it is swept over. -/
structure Sweep where
  suite : Suite
  dims  : Dimensions
deriving DecidableEq

namespace Sweep

/-- How many aggregates the sweep publishes. -/
def configurations? (s : Sweep) : Option Nat :=
  word64? (s.suite.variants.length * s.dims.perVariant)

/-- How many trials the sweep has. -/
def length? (s : Sweep) : Option Nat := do
  word64? ((← s.configurations?) * s.dims.runs.val.toNat)

/-- Whether the sweep has no trials, by their count. -/
def isEmpty? (s : Sweep) : Option Bool := s.length?.map (· == 0)

/-- Seconds that so many trials of the sweep take together; the largest word where
    the product does not fit. -/
def secsOf (s : Sweep) (trials : Nat) : Nat :=
  min (s.dims.duration.secs.toNat * trials) maxWord64

/-- Seconds that all trials take together. -/
def estimatedSecs? (s : Sweep) : Option Nat := s.length?.map s.secsOf

/-- One trial of the sweep. -/
def trial (s : Sweep) (variant : Variant) (threads : ThreadCount) (ratio : Permil)
    (repetition : Nat) : Trial :=
  { suite := s.suite, variant, threads, ratio, repetition := UInt32.ofNat repetition }

/-- **ALL TRIALS** in order: variants outermost, then thread counts, then
    ratios, repetitions innermost. -/
def trials (s : Sweep) : List Trial :=
  s.suite.variants.flatMap fun v =>
    s.dims.threads.flatMap fun t =>
      s.dims.ratios.flatMap fun r =>
        (List.range s.dims.runs.val.toNat).map fun k => s.trial v t r k

/-- The trial at a position: its repetition is the lowest digit, then come
    ratio, thread count and variant. -/
def trialAt? (s : Sweep) (position : Nat) : Option Trial :=
  let runs := s.dims.runs.val.toNat
  let ratios := s.dims.ratios.length
  let threads := s.dims.threads.length
  let block := position / runs
  do
    let ratio ← s.dims.ratios[block % ratios]?
    let thread ← s.dims.threads[block / ratios % threads]?
    let variant ← s.suite.variants[block / ratios / threads]?
    return s.trial variant thread ratio (position % runs)

end Sweep

-- ── Walking along a sweep ─────────────────────────────────────────────────

/-- A place in a sweep of `total` trials: everything before `position` has been
    handed out. -/
structure Cursor where
  sweep    : Sweep
  position : Nat
  total    : Nat
deriving DecidableEq

namespace Cursor

/-- The start of a sweep, if its trials can be counted. -/
def start? (s : Sweep) : Option Cursor := s.length?.map fun total => ⟨s, 0, total⟩

/-- How many trials are still to come. -/
def remaining (c : Cursor) : Nat := c.total - c.position

/-- The next trial and the place behind it. -/
def next (c : Cursor) : Option Trial × Cursor :=
  if c.position < c.total then
    (c.sweep.trialAt? c.position, { c with position := c.position + 1 })
  else (none, c)

/-- The trial after `n` others, and the place behind it.  Asking for more than
    is left uses everything up. -/
def nth (c : Cursor) (n : Nat) : Option Trial × Cursor :=
  if n < c.remaining then next { c with position := c.position + n }
  else (none, { c with position := max c.position c.total })

/-- Up to `n` trials and the place behind them. -/
def take (c : Cursor) : Nat → List Trial × Cursor
  | 0     => ([], c)
  | n + 1 =>
      match c.next with
      | (none, c')   => ([], c')
      | (some t, c') =>
          let (ts, c'') := take c' n
          (t :: ts, c'')

/-- The last trial that is still to come. -/
def last? (c : Cursor) : Option Trial :=
  if c.remaining = 0 then none else c.sweep.trialAt? (c.total - 1)

end Cursor

end BenchSweep
