import BenchSweep.Aggregate.Basic
import BenchSweep.Json.Decode
import BenchSweep.Report.Instant

/-! # Published records

    A run publishes a header and then one record per configuration.  Each record
    has two forms: lines of text for people and one line of JSON for programs.
    The text of a header takes three lines, the last of which names the columns
    of the records after it. -/

namespace BenchSweep

/-- The version that records are marked with. -/
def toolVersion : String := "1.0.0"

/-- The machine a run takes place on. -/
structure Host where
  hostname    : String
  os          : String
  kernel      : Option String
  cpuModel    : String
  logicalCpus : UInt64
  memoryBytes : UInt64
deriving DecidableEq, Repr

/-- Whether a trial asks for more threads than the machine has processors; a
    machine whose processors could not be counted never is. -/
def Host.oversubscribedBy (host : Host) (threads : ThreadCount) : Bool :=
  decide (0 < host.logicalCpus) && decide (host.logicalCpus < threads.val.toUInt64)

/-- What precedes the records of a run. -/
structure Header where
  startedAt  : Instant
  host       : Host
  dimensions : Dimensions
  suites     : List SuiteName
deriving DecidableEq

/-- One published record. -/
inductive Record where
  | header (header : Header)
  | aggregate (aggregate : Aggregate)
deriving DecidableEq

/-- The two forms of records. -/
inductive Format where
  | text
  | json
deriving DecidableEq, Repr, Inhabited

-- ── Text ──────────────────────────────────────────────────────────────────

/-- The lines of a header. -/
def Header.text (h : Header) : String :=
  let dims := h.dimensions
  "# orcbench " ++ toolVersion ++ " started " ++ h.startedAt.toSecond ++ " on "
    ++ h.host.hostname ++ " (" ++ toString h.host.logicalCpus.toNat ++ " cpus)\n"
  ++ "# duration=" ++ toString dims.duration.secs.toNat ++ " runs=" ++ dims.runs.text
    ++ " threads=" ++ ",".intercalate (dims.threads.map ThreadCount.text)
    ++ " ratios=" ++ ",".intercalate (dims.ratios.map Permil.text) ++ "\n"
  ++ "suite\tvariant\tthreads\tratio\tmedian\tsuccesses\n"

/-- The column of the median. -/
def Measurement.text : Measurement → String
  | .median stats => toString stats.median.toNat
  | .failed       => "FAILED"

/-- The columns of an aggregate. -/
def Aggregate.columns (a : Aggregate) : List String :=
  [a.key.suite.text, a.key.variant.text, a.key.threads.text, a.key.ratio.text,
   a.measurement.text, toString a.successes ++ "/" ++ toString a.runs]

/-- The line of an aggregate. -/
def Aggregate.text (a : Aggregate) : String :=
  "\t".intercalate a.columns ++ "\n"

-- ── JSON ──────────────────────────────────────────────────────────────────

namespace Json

/-- A machine as an object. -/
def ofHost (h : Host) : Json :=
  .object [("hostname", .text h.hostname), ("os", .text h.os),
    ("kernel", match h.kernel with | some k => .text k | none => .null),
    ("cpu_model", .text h.cpuModel),
    ("logical_cpus", .natural h.logicalCpus.toNat),
    ("memory_bytes", .natural h.memoryBytes.toNat)]

/-- The fields of a measurement. -/
def ofMeasurement : Measurement → List (String × Json)
  | .median s =>
      [("status", .text "median"), ("median", .natural s.median.toNat),
       ("min", .natural s.min.toNat), ("max", .natural s.max.toNat),
       ("spread_pct", .natural s.spread.toNat)]
  | .failed => [("status", .text "failed")]

/-- The fields of an aggregate; failures only if there are any. -/
def ofAggregate (a : Aggregate) : List (String × Json) :=
  ofKey a.key ++ ofMeasurement a.measurement
    ++ [("successes", .natural a.successes), ("runs", .natural a.runs)]
    ++ (if a.failures.isEmpty then [] else [("failures", .list (a.failures.map ofFailure))])

/-- The fields of a header. -/
def ofHeader (h : Header) : List (String × Json) :=
  [("tool_version", .text toolVersion), ("started_at", .text h.startedAt.exactText),
   ("host", ofHost h.host), ("dimensions", ofDimensions h.dimensions),
   ("suites", .list (h.suites.map fun s => .text s.text))]

/-- A record as an object that starts with its kind. -/
def ofRecord : Record → Json
  | .header h    => .object (("record", .text "header") :: ofHeader h)
  | .aggregate a => .object (("record", .text "aggregate") :: ofAggregate a)

end Json

-- ── Parts of a record ─────────────────────────────────────────────────────

/-- The main part of a record's form: all text, or the JSON object. -/
def Record.body (format : Format) : Record → String
  | .header h    =>
      match format with
      | .text => h.text
      | .json => (Json.ofRecord (.header h)).compact
  | .aggregate a =>
      match format with
      | .text => a.text
      | .json => (Json.ofRecord (.aggregate a)).compact

/-- What ends a record: a JSON object is followed by a line feed. -/
def Format.ending : Format → String
  | .text => ""
  | .json => "\n"

end BenchSweep
