import BenchSweep.Main
import BenchSweep.Json.Read
import BenchSweep.Rehearsal.Sink
import BenchSweep.Proofs.Distinct
import BenchSweep.Proofs.Distinct.FirstRepeat
import BenchSweep.Proofs.Suite.Selection
import BenchSweep.Proofs.Sweep.Cells
import BenchSweep.Proofs.Sweep.Product
import BenchSweep.Proofs.Aggregate.Refinement
import BenchSweep.Proofs.Aggregate.Pending
import BenchSweep.Proofs.Settings.Accepted
import BenchSweep.Proofs.Settings.Criterion
import BenchSweep.Proofs.Run.Scenario
import BenchSweep.Proofs.Run.Position
import BenchSweep.Proofs.Run.Course
import BenchSweep.Proofs.Run.Uninterrupted
import BenchSweep.Proofs.Run.Interrupted
import BenchSweep.Proofs.Run.Overflow
import BenchSweep.Proofs.Run.Refused
import BenchSweep.Proofs.Capture.Path
import BenchSweep.Proofs.Capture.Entry
import BenchSweep.Proofs.Run.Captures
import BenchSweep.Proofs.Plan
import BenchSweep.Proofs.Text.Utf8
import BenchSweep.Proofs.Text.Numeral
import BenchSweep.Proofs.Report.Row
import BenchSweep.Proofs.Report.Fault
import BenchSweep.Proofs.Run.Measured
import BenchSweep.Proofs.Sweep.Arguments
import BenchSweep.Proofs.Run.Selection
import BenchSweep.Proofs.Run.Announced
import BenchSweep.Proofs.Settings.Schema
import BenchSweep.Proofs.Settings.Conforming
import BenchSweep.Proofs.Settings.Rewritten
import BenchSweep.Proofs.Json.Recorded
import BenchSweep.Proofs.Aggregate.Statistics
import BenchSweep.Proofs.Aggregate.Threshold
import BenchSweep.Proofs.Aggregate.Interleaved
import BenchSweep.Proofs.Aggregate.Median
import BenchSweep.Proofs.Text.Line
import BenchSweep.Proofs.Throughput
import BenchSweep.Proofs.Throughput.Marker
import BenchSweep.Proofs.Binary64.Round
import BenchSweep.Proofs.Throughput.Decimal
import BenchSweep.Proofs.Run.Size
import BenchSweep.Proofs.Run.Deadline
import BenchSweep.Proofs.Sweep.Walk
