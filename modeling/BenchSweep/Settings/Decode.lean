import BenchSweep.Settings.Raw
import BenchSweep.Yaml.Resolve

/-! # From documents to settings

    A document is read against a fixed schema.  Each level is a mapping whose
    fields are read in the order of the document; the first problem ends it:

    * a field the level does not have, or has had already;
    * a value that is not of the field's type;
    * at the end, a field that is required and missing.

    A problem is reported with the path of fields to it and with the position of
    the key or value, or of the level's mapping for a field that is repeated or
    missing.  Aliases may be followed only so many times, lest a small document
    make for endless reading; that limit concerns no single value. -/

namespace BenchSweep.Settings

open Yaml

/-- One step down into a document. -/
inductive Step where
  | field (name : String)
  | unnamed
  | item (index : Nat)
deriving DecidableEq, Repr

/-- A path into a document, innermost step first. -/
abbrev Location := List Step

/-- The text of a path; that of the whole document is empty. -/
def Location.text : Location → String
  | [] => ""
  | .field name :: [] => name
  | .unnamed :: []    => "?"
  | .item i :: r      => Location.text r ++ "[" ++ toString i ++ "]"
  | .field name :: r  => Location.text r ++ "." ++ name
  | .unnamed :: r     => Location.text r ++ ".?"

/-- A problem: one with the path to it and its position, or that aliases were
    followed too many times. -/
inductive Problem where
  | at (location : Location) (mark : Mark) (cause : Mismatch)
  | tooManyAliases
deriving DecidableEq, Repr

/-- The wording of a position; the very start of a text has none. -/
def markText (mark : Mark) : String :=
  if mark.line = 0 ∧ mark.column = 0 then ""
  else " at line " ++ toString (mark.line + 1) ++ " column " ++ toString (mark.column + 1)

/-- The wording of a problem. -/
def Problem.message : Problem → String
  | .tooManyAliases => "repetition limit exceeded"
  | .at location mark cause =>
      let path := location.text
      (if path.isEmpty then "" else path ++ ": ") ++ cause.message ++ markText mark

/-- A place where a value is read: the document for its aliases, the path to the
    value, and path and position of the level it belongs to. -/
structure Place where
  document : Document
  location : Location
  level    : Location
  levelAt  : Mark

/-- A computation that reads values and counts the aliases it follows. -/
abbrev Decoding := StateT Nat (Except Problem)

/-- How the value in a place is read. -/
abbrev Decoder (α : Type) := Place → Node → Decoding α

/-- Reading ends with a problem of a value. -/
def problem {α : Type} (location : Location) (mark : Mark) (cause : Mismatch) : Decoding α :=
  throw (.at location mark cause)

/-- The node that a node stands for.  An alias is followed only if the document's
    limit allows it. -/
def follow (document : Document) (node : Node) : Decoding Node := do
  match node with
  | .alias .. =>
      let followed := (← get) + 1
      if document.aliasLimit < followed then throw .tooManyAliases
      set followed
      return document.look node
  | _ => return node

-- ── Values ────────────────────────────────────────────────────────────────

/-- A node that is not of the type expected. -/
def refuse {α : Type} (place : Place) (node : Node) (expected : String) : Decoding α :=
  problem place.location node.mark (mismatch node expected)

/-- Whether the text of a scalar is read as a number: if it is plain, or a
    literal block with the tag of integers. -/
def isNumeric (tag? : Option Tag) (style : Style) : Bool :=
  style = .plain || (style = .literal && tag? == some (standardTag "int"))

/-- The natural number below `2 ^ 64` that a node is. -/
def naturalOf? : Node → Option Nat
  | .scalar _ tag? style text =>
      (if isNumeric tag? style then unsigned? text.toList else none).filter (· < 2 ^ 64)
  | _ => none

/-- A 64-bit word. -/
def word64 : Decoder UInt64 := fun place node => do
  let node ← follow place.document node
  match naturalOf? node with
  | some n => return UInt64.ofNat n
  | none   => refuse place node "u64"

/-- A 32-bit word. -/
def word32 : Decoder UInt32 := fun place node => do
  let node ← follow place.document node
  match naturalOf? node with
  | some n =>
      if n < 2 ^ 32 then return UInt32.ofNat n
      else problem place.location node.mark (.wrongValue (.integer n) "u32")
  | none => refuse place node "u32"

/-- A text: that of any scalar. -/
def text : Decoder String := fun place node => do
  match ← follow place.document node with
  | .scalar _ _ _ text => return text
  | other              => refuse place other "a string"

/-- A value that may be left out: nothing, or a spelling of it, is none. -/
def optional {α : Type} (decode : Decoder α) : Decoder (Option α) := fun place node => do
  let node ← follow place.document node
  match node with
  | .scalar _ none .plain text =>
      if text.isEmpty || isNull text then return none
      else return some (← decode place node)
  | .scalar _ (some tag) .plain text =>
      if tag = standardTag "null" then
        if isNull text then return none
        else problem place.level place.levelAt (.wrongValue (.text text) "null")
      else return some (← decode place node)
  | _ => return some (← decode place node)

/-- Whether a scalar is plain and without text: an empty mapping or sequence. -/
def isBlankScalar (style : Style) (text : String) : Bool :=
  style = .plain && text.isEmpty

/-- Items one after the other, counted from `index`. -/
def items {α : Type} (decode : Decoder α) (place : Place) :
    Nat → List Node → Decoding (List α)
  | _, [] => return []
  | index, node :: rest => do
      let value ← decode { place with location := .item index :: place.location } node
      return value :: (← items decode place (index + 1) rest)

/-- A sequence. -/
def sequence {α : Type} (decode : Decoder α) : Decoder (List α) := fun place node => do
  match ← follow place.document node with
  | .sequence _ _ nodes => items decode place 0 nodes
  | .scalar mark tag? style text =>
      if isBlankScalar style text then return []
      else refuse place (.scalar mark tag? style text) "a sequence"
  | other => refuse place other "a sequence"

-- ── Encodings ─────────────────────────────────────────────────────────────

/-- The encoding of a name. -/
def encodingOfName (location : Location) (mark : Mark) (name : String) :
    Decoding Encoding :=
  match Encoding.ofName? name with
  | some e => return e
  | none   => problem location mark (.unknownVariant name ["flags", "positional"])

/-- What follows a tag that names an encoding must be nothing. -/
def noContent (place : Place) : Node → Decoding Unit
  | .scalar mark _ style text =>
      if style = .plain && (text.isEmpty || isNull text) then return ()
      else problem place.location mark (.wrongValue (.text text) "null")
  | .sequence mark .. => problem place.location mark (.wrongType .list "unit")
  | .mapping mark ..  => problem place.location mark (.wrongType .map "unit")
  | .alias mark _     => problem place.location mark (.wrongType .unit "unit")

/-- Where a tag that names no encoding is reported: for the level that the node
    with the tag is written in, or where an alias leads to it from afar. -/
def tagPlace (place : Place) : Node → Location × Mark
  | .alias mark _ => (place.location, mark)
  | _             => (place.level, place.levelAt)

/-- An encoding: named by a scalar's text, or by a local tag with nothing after
    it. -/
def encoding : Decoder Encoding := fun place written => do
  let node ← follow place.document written
  let tagged (tag? : Option Tag) (otherwise : Decoding Encoding) : Decoding Encoding :=
    match tag?.bind Tag.localName? with
    | some name => do
        let (location, mark) := tagPlace place written
        let e ← encodingOfName location mark name
        noContent place node
        return e
    | none => otherwise
  let untagged (found : Found) : Decoding Encoding :=
    problem place.location node.mark (.wrongType found "a YAML tag starting with '!'")
  match node with
  | .scalar mark tag? _ text => tagged tag? (encodingOfName place.location mark text)
  | .sequence _ tag? _       => tagged tag? (untagged .list)
  | .mapping _ tag? _        => tagged tag? (untagged .map)
  | .alias ..                => untagged .unit

-- ── Levels ────────────────────────────────────────────────────────────────

/-- A level of the schema: how it is called in messages, its fields, and which
    of them every mapping of the level must have. -/
structure Level where
  title    : String
  fields   : List String
  required : List String

/-- The name of a key, which is the text of a scalar, and its mark. -/
def keyName (level : Place) (key : Node) : Decoding (String × Mark) := do
  match ← follow level.document key with
  | .scalar mark _ _ name => return (name, mark)
  | .sequence mark ..     => problem level.location mark (.wrongType .list "field identifier")
  | .mapping mark ..      => problem level.location mark (.wrongType .map "field identifier")
  | .alias mark _         => problem level.location mark (.wrongType .unit "field identifier")

/-- The step from a level to the value of a key; behind an alias a key has no
    name. -/
def stepTo : Node → Step
  | .scalar _ _ _ name => .field name
  | _                  => .unnamed

/-- Reads the entries of a mapping, given the fields read before. -/
def readFields {σ : Type} (schema : Level) (read : σ → String → Decoder σ) (level : Place)
    (mark : Mark) : List String → σ → List (Node × Node) → Decoding σ
  | seen, acc, [] =>
      match schema.required.find? fun f => !seen.contains f with
      | some f => problem level.location mark (.missingField f)
      | none   => return acc
  | seen, acc, (key, value) :: rest => do
      let (name, keyAt) ← keyName level key
      if !schema.fields.contains name then
        problem level.location keyAt (.unknownField name schema.fields)
      if seen.contains name then
        problem level.location mark (.duplicateField name)
      let place : Place :=
        { document := level.document, location := stepTo key :: level.location,
          level := level.location, levelAt := mark }
      let acc ← read acc name place value
      readFields schema read level mark (name :: seen) acc rest

/-- A mapping of a level; a plain scalar without text is an empty mapping. -/
def mapping {σ : Type} (schema : Level) (start : σ) (read : σ → String → Decoder σ) :
    Decoder σ := fun place node => do
  match ← follow place.document node with
  | .mapping mark _ entries => readFields schema read place mark [] start entries
  | .scalar mark tag? style text =>
      if isBlankScalar style text then readFields schema read place mark [] start []
      else refuse place (.scalar mark tag? style text) ("struct " ++ schema.title)
  | other => refuse place other ("struct " ++ schema.title)

/-- The sweep level. -/
def sweepLevel : Level :=
  { title := "RawSweepConfig", fields := ["duration_secs", "runs", "threads", "ratios"],
    required := [] }

/-- A field of the sweep level. -/
def readSweepField (raw : RawSweep) (name : String) : Decoder RawSweep := fun place node =>
  match name with
  | "duration_secs" => do return { raw with durationSecs := ← word64 place node }
  | "runs"          => do return { raw with runs := ← word32 place node }
  | "threads"       => do return { raw with threads := ← sequence word32 place node }
  | "ratios"        => do return { raw with ratios := ← sequence word32 place node }
  | _               => return raw

/-- The sweep. -/
def sweep : Decoder RawSweep := mapping sweepLevel {} readSweepField

/-- The runner level. -/
def runnerLevel : Level :=
  { title := "RawRunnerConfig",
    fields := ["bin_dir", "work_dir", "timeout_multiplier", "min_successes"],
    required := [] }

/-- A field of the runner level. -/
def readRunnerField (raw : RawRunner) (name : String) : Decoder RawRunner := fun place node =>
  match name with
  | "bin_dir"            => do return { raw with binDir := ← text place node }
  | "work_dir"           => do return { raw with workDir? := ← optional text place node }
  | "timeout_multiplier" => do return { raw with timeoutMultiplier := ← word32 place node }
  | "min_successes"      => do return { raw with minSuccesses := ← word32 place node }
  | _                    => return raw

/-- How trials are run. -/
def runner : Decoder RawRunner := mapping runnerLevel {} readRunnerField

/-- The variant level. -/
def variantLevel : Level :=
  { title := "RawVariant", fields := ["name", "label"], required := ["name"] }

/-- A field of the variant level. -/
def readVariantField (raw : RawVariant) (name : String) : Decoder RawVariant :=
  fun place node =>
    match name with
    | "name"  => do return { raw with name := ← text place node }
    | "label" => do return { raw with label := ← text place node }
    | _       => return raw

/-- A variant. -/
def variant : Decoder RawVariant := mapping variantLevel { name := "" } readVariantField

/-- The suite level. -/
def suiteLevel : Level :=
  { title := "RawSuite",
    fields := ["name", "executable", "encoding", "keys", "throughput_marker", "variants"],
    required := ["name", "variants"] }

/-- A field of the suite level. -/
def readSuiteField (raw : RawSuite) (name : String) : Decoder RawSuite := fun place node =>
  match name with
  | "name"              => do return { raw with name := ← text place node }
  | "executable"        => do return { raw with executable? := ← optional text place node }
  | "encoding"          => do return { raw with encoding := ← encoding place node }
  | "keys"              => do return { raw with keys? := ← optional word64 place node }
  | "throughput_marker" => do return { raw with marker? := ← optional text place node }
  | "variants"          => do return { raw with variants := ← sequence variant place node }
  | _                   => return raw

/-- A suite. -/
def suite : Decoder RawSuite :=
  mapping suiteLevel { name := "", variants := [] } readSuiteField

/-- The level of the whole document. -/
def configLevel : Level :=
  { title := "RawConfig", fields := ["sweep", "runner", "suites"], required := [] }

/-- A field of the whole document. -/
def readConfigField (raw : RawConfig) (name : String) : Decoder RawConfig := fun place node =>
  match name with
  | "sweep"  => do return { raw with sweep := ← sweep place node }
  | "runner" => do return { raw with runner := ← runner place node }
  | "suites" => do return { raw with suites? := ← optional (sequence suite) place node }
  | _        => return raw

/-- All settings. -/
def config : Decoder RawConfig := mapping configLevel {} readConfigField

/-- **THE SETTINGS** in a document; a stream without document makes none. -/
def decode (document : Document) : Except Problem RawConfig :=
  match document.root? with
  | none => .ok {}
  | some root =>
      ((config { document, location := [], level := [], levelAt := .origin } root).run 0).map
        (·.1)

end BenchSweep.Settings
