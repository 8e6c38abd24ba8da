import BenchSweep.Name
import BenchSweep.Distinct

/-! # Benchmark suites

    A suite is one benchmark executable with the variants it can measure, the
    way it takes its arguments and the marker its figure is found by. -/

namespace BenchSweep

/-- How an executable takes its arguments: named flags can state every
    dimension of a trial, positional arguments only its variant and length. -/
inductive Encoding where
  | flags
  | positional
deriving DecidableEq, Repr, Inhabited

/-- The name an encoding is written under. -/
def Encoding.name : Encoding → String
  | .flags      => "flags"
  | .positional => "positional"

/-- The encoding with a given name. -/
def Encoding.ofName? : String → Option Encoding
  | "flags"      => some .flags
  | "positional" => some .positional
  | _            => none

/-- Whether arguments tell thread count and ratio apart. -/
def Encoding.expressesDimensions : Encoding → Bool
  | .flags      => true
  | .positional => false

/-- One implementation that a suite measures. -/
structure Variant where
  name  : VariantName
  label : String
deriving DecidableEq

/-- The marker of suites that set none. -/
def defaultMarker : String := "Ops/sec ="

/-- One benchmark executable and what is known about it. -/
structure Suite where
  name       : SuiteName
  executable : String
  encoding   : Encoding
  keys       : Option UInt64
  marker     : String
  variants   : List Variant
deriving DecidableEq

/-- A suite has variants, and their names differ. -/
def checkVariants (suite : SuiteName) (variants : List Variant) : Except Fault Unit :=
  if variants.isEmpty then .error (.emptyList .variants)
  else match firstRepeat? (fun v : Variant => v.name) variants with
    | some v => .error (.duplicateVariant v.name.text suite.text)
    | none   => .ok ()

/-- A suite from its parts, once its variants have passed `checkVariants`. -/
def Suite.make (name : SuiteName) (executable : String) (encoding : Encoding)
    (keys : Option UInt64) (marker : String) (variants : List Variant) :
    Except Fault Suite := do
  checkVariants name variants
  return { name, executable, encoding, keys, marker, variants }

end BenchSweep
