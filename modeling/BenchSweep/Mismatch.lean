import BenchSweep.Fault
import BenchSweep.Binary64.Compact
import BenchSweep.Text.Quoted

/-! # Mismatches between data and what is expected of it

    Decoding a document stops at the first value that does not have the shape
    its place asks for.  The causes are the same for every document format; the
    wording is given in one place, `Mismatch.message`. -/

namespace BenchSweep

/-- What was found in a place.  Fractions are told positionally or compactly,
    depending on the format of the document. -/
inductive Found where
  | integer (value : Int)
  | wideInteger (value : Int) (width : String)
  | fraction (value : Binary64)
  | compactFraction (value : Binary64)
  | bool (value : Bool)
  | text (value : String)
  | null
  | unit
  | list
  | map
deriving DecidableEq, Repr

/-- The wording of what was found. -/
def Found.message : Found → String
  | .integer n           => "integer " ++ Text.named (toString n)
  | .wideInteger n width => "integer " ++ Text.named (toString n) ++ " as " ++ width
  | .fraction v          => "floating point " ++ Text.named v.text
  | .compactFraction v   => "floating point " ++ Text.named v.compact
  | .bool b              => "boolean " ++ Text.named (if b then "true" else "false")
  | .text s              => "string " ++ Text.quoted s
  | .null                => "null"
  | .unit                => "unit value"
  | .list                => "sequence"
  | .map                 => "map"

/-- Why data is refused. -/
inductive Mismatch where
  | wrongType (found : Found) (expected : String)
  | wrongValue (found : Found) (expected : String)
  | wrongLength (found : Nat) (expected : String)
  | missingField (name : String)
  | duplicateField (name : String)
  | unknownField (name : String) (known : List String)
  | unknownVariant (name : String) (known : List String)
  | refused (fault : Fault)
deriving DecidableEq, Repr

/-- The wording of a mismatch. -/
def Mismatch.message : Mismatch → String
  | .wrongType found expected   => "invalid type: " ++ found.message ++ ", expected " ++ expected
  | .wrongValue found expected  => "invalid value: " ++ found.message ++ ", expected " ++ expected
  | .wrongLength found expected =>
      "invalid length " ++ toString found ++ ", expected " ++ expected
  | .missingField name          => "missing field " ++ Text.named name
  | .duplicateField name        => "duplicate field " ++ Text.named name
  | .unknownField name known    =>
      "unknown field " ++ Text.named name ++ ", expected " ++ Text.alternatives known
  | .unknownVariant name known  =>
      "unknown variant " ++ Text.named name ++ ", expected " ++ Text.alternatives known
  | .refused fault              => fault.message

end BenchSweep
