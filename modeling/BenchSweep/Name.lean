import BenchSweep.Fault

/-! # Suite and variant names

    A name is handed to benchmark executables as an argument and becomes part
    of file names, so it is 1 to 64 bytes of ASCII letters, digits, hyphens and
    underscores.  The invariant is part of the type: whoever holds a name need
    not test it again. -/

namespace BenchSweep

/-- The characters a name may hold. -/
def isNameChar (c : Char) : Bool :=
  c.isAlphanum || c == '-' || c == '_'

/-- A well-formed name. -/
structure IsName (text : String) : Prop where
  nonempty : text ≠ ""
  short    : text.utf8ByteSize ≤ 64
  plain    : text.toList.all isNameChar = true

instance (text : String) : Decidable (IsName text) :=
  decidable_of_iff (text ≠ "" ∧ text.utf8ByteSize ≤ 64 ∧ text.toList.all isNameChar = true)
    ⟨fun ⟨h1, h2, h3⟩ => ⟨h1, h2, h3⟩, fun ⟨h1, h2, h3⟩ => ⟨h1, h2, h3⟩⟩

/-- What a name names. -/
inductive Role where
  | suite
  | variant
deriving DecidableEq, Repr

/-- The setting that a name of this role is given in. -/
def Role.setting : Role → Setting
  | .suite   => .suite
  | .variant => .variant

/-- A well-formed name; suites and variants have different types of names. -/
@[ext]
structure Name (role : Role) where
  text  : String
  valid : IsName text
deriving DecidableEq

/-- The name of a benchmark suite. -/
abbrev SuiteName := Name .suite

/-- The name of a variant of a suite. -/
abbrev VariantName := Name .variant

/-- Why a text is no name: emptiness is noticed before length, length before
    characters. -/
def nameRefusal (text : String) : Refusal :=
  if text = "" then .emptyName
  else if text.utf8ByteSize ≤ 64 then .forbiddenCharacter
  else .longName text.utf8ByteSize

/-- The name a text is, or the fault it has. -/
def Name.ofString (role : Role) (text : String) : Except Fault (Name role) :=
  if h : IsName text then .ok ⟨text, h⟩
  else .error (.refused role.setting text (nameRefusal text))

end BenchSweep
