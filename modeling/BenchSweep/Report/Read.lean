import BenchSweep.Json.Read
import BenchSweep.Report.Record
import BenchSweep.Text.Utf8

/-! # Reading records back

    The readers beside the two forms of aggregates.  A line of JSON holds the whole
    aggregate (`Json.toAggregate`), a line of text its columns (`Row.read?`).  Both
    check what they read again, names and bounds included. -/

namespace BenchSweep

namespace Json

/-- The value that a line of bytes holds. -/
def readLine? (line : List UInt8) : Option Json := do
  read? (← Text.validUtf8? line)

/-- A field that has to be there. -/
def requireField (fields : List (String × Json)) (name : String) : Except Mismatch Json :=
  require name (field? fields name)

/-- A measurement; its status says which other fields there are. -/
def toMeasurement (fields : List (String × Json)) : Except Mismatch Measurement := do
  let status ← toText (← requireField fields "status")
  match status with
  | "median" =>
      let median ← toWord64 (← requireField fields "median")
      let min ← toWord64 (← requireField fields "min")
      let max ← toWord64 (← requireField fields "max")
      let spread ← toWord64 (← requireField fields "spread_pct")
      return .median { median, min, max, spread }
  | "failed" => return .failed
  | _        => .error (.unknownVariant status ["median", "failed"])

/-- The failures of an aggregate; there are none if the field is left out. -/
def toFailures : Option Json → Except Mismatch (List Failure)
  | none               => return []
  | some (.list items) => items.mapM toFailure
  | some value         => .error (.wrongType value.found "a sequence")

/-- An aggregate from a record of that kind. -/
def toAggregate (record : Json) : Except Mismatch Aggregate :=
  match record with
  | .object fields => do
      match ← toText (← requireField fields "record") with
      | "aggregate" =>
          let key ← toKey record
          let measurement ← toMeasurement fields
          let successes ← toWord32 (← requireField fields "successes")
          let runs ← toWord32 (← requireField fields "runs")
          let failures ← toFailures (field? fields "failures")
          return { key, measurement, successes := successes.toNat, runs := runs.toNat, failures }
      | kind => .error (.unknownVariant kind ["header", "aggregate"])
  | value => .error (.wrongType value.found "internally tagged enum Record")

end Json

/-! ## Rows of text -/

/-- What the columns of an aggregate say of it. -/
structure Row where
  suite     : SuiteName
  variant   : VariantName
  threads   : ThreadCount
  ratio     : Permil
  median?   : Option UInt64
  successes : Nat
  runs      : Nat
deriving DecidableEq

/-- The row of an aggregate. -/
def Aggregate.row (a : Aggregate) : Row :=
  { suite := a.key.suite, variant := a.key.variant, threads := a.key.threads,
    ratio := a.key.ratio, median? := a.measurement.median?, successes := a.successes,
    runs := a.runs }

namespace Row

/-- The column of the median: a number, or that the configuration failed. -/
def readMedian? (column : List Char) : Option (Option UInt64) :=
  if column = "FAILED".toList then some none
  else (Text.numeralBelow? (2 ^ 64) column).map fun n => some (UInt64.ofNat n)

/-- The column of the successes among the runs. -/
def readShare? (column : List Char) : Option (Nat × Nat) :=
  match column.splitOn '/' with
  | [successes, runs] => do return (← Text.value? 10 successes, ← Text.value? 10 runs)
  | _                 => none

/-- A row from its columns. -/
def ofColumns? : List (List Char) → Option Row
  | [suite, variant, threads, ratio, median, share] => do
      let suite ← (Name.ofString .suite (String.ofList suite)).toOption
      let variant ← (Name.ofString .variant (String.ofList variant)).toOption
      let threads ← Text.numeralBelow? (2 ^ 32) threads
      let threads ← (ThreadCount.ofWord (UInt32.ofNat threads)).toOption
      let ratio ← Text.numeralBelow? (2 ^ 32) ratio
      let ratio ← (Permil.ofWord (UInt32.ofNat ratio)).toOption
      let median? ← readMedian? median
      let (successes, runs) ← readShare? share
      return { suite, variant, threads, ratio, median?, successes, runs }
  | _ => none

/-- A row from a text that is one line, with a line feed at its end. -/
def read? (text : List Char) : Option Row :=
  match text.splitOn '\n' with
  | [line, []] => ofColumns? (line.splitOn '\t')
  | _          => none

end Row

end BenchSweep
