import BenchSweep.Settings.Raw
import BenchSweep.Suite.Builtin
import BenchSweep.Sweep.Dimensions
import BenchSweep.Text.Blank

/-! # From settings as written to a configuration

    Settings are checked in a fixed order — sweep, runner, suites, selection —
    and the first fault ends it.  What comes out holds only checked values. -/

namespace BenchSweep

/-- How trials are run. -/
structure RunnerSettings where
  binDir            : String
  workDir?          : Option String
  timeoutMultiplier : UInt32
  minSuccesses      : UInt32
deriving DecidableEq

/-- Everything a run needs to know. -/
structure Config where
  sweep   : Dimensions
  runner  : RunnerSettings
  catalog : Catalog
deriving DecidableEq

namespace Settings

/-- The dimensions of a sweep as written. -/
def validateSweep (raw : RawSweep) : Except Fault Dimensions := do
  let duration ← TrialDuration.ofSecs raw.durationSecs
  let runs ← RunCount.ofWord raw.runs
  let threads ← raw.threads.mapM ThreadCount.ofWord
  let ratios ← raw.ratios.mapM Permil.ofWord
  Dimensions.make duration runs threads ratios

/-- The runner's settings: the deadline is at least one trial length, and the
    required successes are reachable. -/
def validateRunner (raw : RawRunner) (runs : RunCount) : Except Fault RunnerSettings :=
  if raw.timeoutMultiplier = 0 then
    .error (.refused .timeoutMultiplier "0" .noMultiplier)
  else if raw.minSuccesses = 0 ∨ runs.val < raw.minSuccesses then
    .error (.refused .minSuccesses (toString raw.minSuccesses.toNat)
      (.successesOutOfRange runs.val))
  else .ok
    { binDir := raw.binDir, workDir? := raw.workDir?,
      timeoutMultiplier := raw.timeoutMultiplier, minSuccesses := raw.minSuccesses }

/-- A suite's executable below `binDir`; it has the suite's name unless another
    one is written. -/
def validateExecutable (name : SuiteName) (binDir : String) :
    Option String → Except Fault String
  | none => .ok (Path.join binDir name.text)
  | some path =>
      if path = "" then .error (.refused .executable "" (.emptyExecutable name.text))
      else .ok (Path.join binDir path)

/-- A variant. -/
def validateVariant (raw : RawVariant) : Except Fault Variant := do
  return { name := ← Name.ofString .variant raw.name, label := raw.label }

/-- A marker, which must have a visible character. -/
def validateMarker (marker : String) : Except Fault String :=
  if Text.allBlank marker.toList then .error (.refused .throughputMarker marker .blankMarker)
  else .ok marker

/-- A suite. -/
def validateSuite (binDir : String) (raw : RawSuite) : Except Fault Suite := do
  let name ← Name.ofString .suite raw.name
  let executable ← validateExecutable name binDir raw.executable?
  let variants ← raw.variants.mapM validateVariant
  let marker ← validateMarker (raw.marker?.getD defaultMarker)
  Suite.make name executable raw.encoding raw.keys? marker variants

/-- The catalog as written, or the built-in one. -/
def validateCatalog (binDir : String) : Option (List RawSuite) → Except Fault Catalog
  | some suites => do Catalog.ofSuites (← suites.mapM (validateSuite binDir))
  | none        => .ok (Catalog.builtin binDir)

/-- The suites asked for; without a request all of them. -/
def selectSuites (catalog : Catalog) (names : List String) : Except Fault Catalog :=
  if names.isEmpty then .ok catalog else catalog.select names

/-- **THE CONFIGURATION** that settings make, some of them replaced. -/
def validate (raw : RawConfig) (overrides : Overrides) : Except Fault Config := do
  let sweep ← validateSweep (raw.sweep.override overrides)
  let runner ← validateRunner raw.runner sweep.runs
  let catalog ← validateCatalog runner.binDir raw.suites?
  let catalog ← selectSuites catalog overrides.suites
  return { sweep, runner, catalog }

end Settings

end BenchSweep
