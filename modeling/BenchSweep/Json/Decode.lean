import BenchSweep.Json.Basic
import BenchSweep.Mismatch
import BenchSweep.Sweep.Failure
import BenchSweep.Sweep.Dimensions
import BenchSweep.Sweep.Trial

/-! # Recorded values as JSON

    The values that records consist of, written as JSON values and read back
    from them.  Reading checks every bound again, so a record cannot bring in a
    name, a thread count or a ratio that the settings would refuse.

    A configuration may be read from an object, whose unknown fields are
    ignored and whose known ones must not be repeated, or from the list of its
    four parts; a failure from an object with its kind, or from a list that
    starts with it. -/

namespace BenchSweep.Json

/-- The kind of a JSON value, for messages. -/
def found : Json → Found
  | .null       => .null
  | .bool b     => .bool b
  | .natural n  => .integer n
  | .negative n => .integer (-(n : Int))
  | .fraction v => .compactFraction v
  | .text s     => .text s
  | .list _     => .list
  | .object _   => .map

/-- The last field of a name. -/
def field? (fields : List (String × Json)) (name : String) : Option Json :=
  (fields.reverse.find? fun f => f.1 == name).map (·.2)

-- ── Scalars ───────────────────────────────────────────────────────────────

/-- A natural number below `bound`. -/
def naturalBelow (bound : Nat) (expected : String) (value : Json) : Except Mismatch Nat :=
  match value with
  | .natural n =>
      if n < bound then .ok n else .error (.wrongValue value.found expected)
  | .negative _ => .error (.wrongValue value.found expected)
  | _           => .error (.wrongType value.found expected)

/-- A 32-bit word. -/
def toWord32 (value : Json) : Except Mismatch UInt32 :=
  (naturalBelow (2 ^ 32) "u32" value).map UInt32.ofNat

/-- A 64-bit word. -/
def toWord64 (value : Json) : Except Mismatch UInt64 :=
  (naturalBelow (2 ^ 64) "u64" value).map UInt64.ofNat

/-- A text. -/
def toText : Json → Except Mismatch String
  | .text s => .ok s
  | value   => .error (.wrongType value.found "a string")

/-- A name of a given role. -/
def toName (role : Role) (value : Json) : Except Mismatch (Name role) := do
  (Name.ofString role (← toText value)).mapError .refused

/-- A thread count. -/
def toThreadCount (value : Json) : Except Mismatch ThreadCount := do
  (ThreadCount.ofWord (← toWord32 value)).mapError .refused

/-- A ratio. -/
def toPermil (value : Json) : Except Mismatch Permil := do
  (Permil.ofWord (← toWord32 value)).mapError .refused

/-- A repetition count. -/
def toRunCount (value : Json) : Except Mismatch RunCount := do
  (RunCount.ofWord (← toWord32 value)).mapError .refused

/-- A duration in seconds. -/
def toDuration (value : Json) : Except Mismatch TrialDuration := do
  (TrialDuration.ofSecs (← toWord64 value)).mapError .refused

/-- The names of the encodings. -/
def encodingNames : List String := ["flags", "positional"]

/-- The encoding of a name. -/
def encodingOfName (name : String) : Except Mismatch Encoding :=
  match Encoding.ofName? name with
  | some e => .ok e
  | none   => .error (.unknownVariant name encodingNames)

/-- An encoding: its name, or an object whose only field has that name and no
    value. -/
def toEncoding : Json → Except Mismatch Encoding
  | .text name => encodingOfName name
  | .object [(name, value)] => do
      let encoding ← encodingOfName name
      match value with
      | .null => .ok encoding
      | _     => .error (.wrongType value.found "unit")
  | .object _ => .error (.wrongValue .map "map with a single key")
  | value     => .error (.wrongType value.found "string or map")

-- ── Configurations ────────────────────────────────────────────────────────

/-- A configuration as an object. -/
def ofKey (key : Key) : List (String × Json) :=
  [("suite", .text key.suite.text), ("variant", .text key.variant.text),
   ("threads", .natural key.threads.val.toNat), ("ratio", .natural key.ratio.val.toNat)]

/-- Reads a part that may be given once only. -/
def readOnce {α : Type} (name : String) (read : Json → Except Mismatch α) (value : Json) :
    Option α → Except Mismatch (Option α)
  | some _ => .error (.duplicateField name)
  | none   => (read value).map some

/-- Reads a part from the field of its name; other fields are passed over. -/
def readPart {α : Type} (name : String) (read : Json → Except Mismatch α) (part : Option α)
    (field : String × Json) : Except Mismatch (Option α) :=
  if field.1 = name then readOnce name read field.2 part else .ok part

/-- What the field of a name is read as, if there is one. -/
def readField? {α : Type} (fields : List (String × Json)) (name : String)
    (read : Json → Except Mismatch α) : Except Mismatch (Option α) :=
  fields.foldlM (readPart name read) none

/-- The parts of a configuration that have been read. -/
structure KeyParts where
  suite?   : Option SuiteName := none
  variant? : Option VariantName := none
  threads? : Option ThreadCount := none
  ratio?   : Option Permil := none

/-- Reads one field of a configuration; others than its four are ignored. -/
def KeyParts.read (parts : KeyParts) (field : String × Json) : Except Mismatch KeyParts :=
  match field with
  | ("suite", v)   => do
      return { parts with suite? := ← readOnce "suite" (toName .suite) v parts.suite? }
  | ("variant", v) => do
      return { parts with variant? := ← readOnce "variant" (toName .variant) v parts.variant? }
  | ("threads", v) => do
      return { parts with threads? := ← readOnce "threads" toThreadCount v parts.threads? }
  | ("ratio", v)   => do
      return { parts with ratio? := ← readOnce "ratio" toPermil v parts.ratio? }
  | _              => .ok parts

/-- A part that has to be there. -/
def require {α : Type} (name : String) : Option α → Except Mismatch α
  | some v => .ok v
  | none   => .error (.missingField name)

/-- A configuration from its parts. -/
def KeyParts.finish (parts : KeyParts) : Except Mismatch Key := do
  let suite ← require "suite" parts.suite?
  let variant ← require "variant" parts.variant?
  let threads ← require "threads" parts.threads?
  let ratio ← require "ratio" parts.ratio?
  return { suite, variant, threads, ratio }

/-- An item that has to be there. -/
def item (items : List Json) (i : Nat) (expected : String) : Except Mismatch Json :=
  match items[i]? with
  | some v => .ok v
  | none   => .error (.wrongLength i expected)

/-- A configuration, from an object or from the list of its parts. -/
def toKey : Json → Except Mismatch Key
  | .object fields => do
      (← fields.foldlM KeyParts.read {}).finish
  | .list items => do
      let expected := "struct ConfigKey with 4 elements"
      let suite ← toName .suite (← item items 0 expected)
      let variant ← toName .variant (← item items 1 expected)
      let threads ← toThreadCount (← item items 2 expected)
      let ratio ← toPermil (← item items 3 expected)
      if 4 < items.length then .error (.wrongLength items.length "fewer elements in array")
      else return { suite, variant, threads, ratio }
  | value => .error (.wrongType value.found "struct ConfigKey")

-- ── Failures ──────────────────────────────────────────────────────────────

/-- A failure as an object: its kind and the one thing known about it. -/
def ofFailure (failure : Failure) : Json :=
  .object [("kind", .text failure.kind),
    match failure with
    | .launch reason      => ("reason", .text reason)
    | .wait reason        => ("reason", .text reason)
    | .timeout limitMs    => ("limit_ms", .natural limitMs.toNat)
    | .nonZeroExit status => ("status", .text status)
    | .unparseable marker => ("marker", .text marker)]

/-- The kinds of failures. -/
inductive FailureKind where
  | launch
  | wait
  | timeout
  | nonZeroExit
  | unparseable
deriving DecidableEq, Repr

namespace FailureKind

/-- The names of the kinds. -/
def names : List String := ["launch", "wait", "timeout", "non_zero_exit", "unparseable"]

/-- The kind of a name. -/
def ofName? : String → Option FailureKind
  | "launch"        => some .launch
  | "wait"          => some .wait
  | "timeout"       => some .timeout
  | "non_zero_exit" => some .nonZeroExit
  | "unparseable"   => some .unparseable
  | _               => none

/-- The title of a kind in messages. -/
def title : FailureKind → String
  | .launch      => "Launch"
  | .wait        => "Wait"
  | .timeout     => "Timeout"
  | .nonZeroExit => "NonZeroExit"
  | .unparseable => "Unparseable"

/-- The name of what is known about a failure of a kind. -/
def detail : FailureKind → String
  | .launch      => "reason"
  | .wait        => "reason"
  | .timeout     => "limit_ms"
  | .nonZeroExit => "status"
  | .unparseable => "marker"

/-- A failure of a kind, from what is known about it. -/
def failure (kind : FailureKind) (value : Json) : Except Mismatch Failure :=
  match kind with
  | .launch      => (toText value).map .launch
  | .wait        => (toText value).map .wait
  | .timeout     => (toWord64 value).map .timeout
  | .nonZeroExit => (toText value).map .nonZeroExit
  | .unparseable => (toText value).map .unparseable

/-- The kind that a value names. -/
def read : Json → Except Mismatch FailureKind
  | .text name =>
      match ofName? name with
      | some kind => .ok kind
      | none      => .error (.unknownVariant name names)
  | value => .error (.wrongType value.found "variant identifier")

end FailureKind

/-- A failure, from an object with its kind or from a list that starts with it. -/
def toFailure : Json → Except Mismatch Failure
  | .object fields => do
      let kind ← require "kind" (← readField? fields "kind" FailureKind.read)
      require kind.detail (← readField? fields kind.detail kind.failure)
  | .list [] => .error (.missingField "kind")
  | .list (first :: rest) => do
      let kind ← FailureKind.read first
      let value ← item rest 0 ("struct variant TrialFailure::" ++ kind.title ++ " with 1 element")
      let failure ← kind.failure value
      if 1 < rest.length then .error (.wrongLength rest.length "1 element in sequence")
      else return failure
  | value => .error (.wrongType value.found "internally tagged enum TrialFailure")

-- ── Dimensions ────────────────────────────────────────────────────────────

/-- Dimensions as an object. -/
def ofDimensions (dims : Dimensions) : Json :=
  .object [("duration", .natural dims.duration.secs.toNat),
    ("runs", .natural dims.runs.val.toNat),
    ("threads", .list (dims.threads.map fun t => .natural t.val.toNat)),
    ("ratios", .list (dims.ratios.map fun r => .natural r.val.toNat))]

end BenchSweep.Json
