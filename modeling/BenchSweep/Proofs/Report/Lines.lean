import BenchSweep.Proofs.Report.Limited
import BenchSweep.Proofs.Report.Object

/-! # Lines of JSON

    In JSON, what a stream takes is one line per record, in order, and nothing is
    lost in a line (`json_lines_hold_records`): whatever characters the texts of a
    record have, its line has no line feed of its own, it is read as the object of
    the record, and the line of an aggregate is decoded as that aggregate.  So the
    lines of two aggregates differ if these do. -/

namespace BenchSweep

/-- The line of a record in JSON, without its line feed. -/
def Record.line (r : Record) : List UInt8 := Text.encodeUtf8 (r.body .json)

/-- What a record is marked as. -/
def Record.kind : Record → String
  | .header _    => "header"
  | .aggregate _ => "aggregate"

namespace Record

theorem body_json (r : Record) : r.body .json = (Json.ofRecord r).compact := by
  cases r with
  | header h => rfl
  | aggregate a => rfl

theorem toList_body_json (r : Record) : (r.body .json).toList = (Json.ofRecord r).chars := by
  rw [body_json, Json.compact, String.toList_ofList]

theorem bytes_json (r : Record) : r.bytes .json = r.line ++ [10] :=
  congrArg (r.line ++ ·) encodeUtf8_lineFeed

/-- The object of a record starts with its kind. -/
theorem exists_ofRecord_eq (r : Record) :
    ∃ fields, Json.ofRecord r = .object (("record", .text r.kind) :: fields) := by
  cases r with
  | header h => exact ⟨_, rfl⟩
  | aggregate a => exact ⟨_, rfl⟩

variable {r : Record}

/-- A line has no line feed of its own. -/
theorem lineFeed_not_mem_line (hr : r.FitsWords) : 10 ∉ r.line := by
  rw [line, Text.lineFeed_mem_encodeUtf8_iff, toList_body_json]
  intro hmem
  exact absurd (Json.not_control_chars _ (Json.isExact_ofRecord hr) _ hmem) (by decide)

/-- A line is read as the object of its record. -/
theorem readLine?_line (hr : r.FitsWords) : Json.readLine? r.line = some (Json.ofRecord r) := by
  rw [Json.readLine?, line, Text.validUtf8?_encodeUtf8, toList_body_json]
  exact Json.read?_chars (Json.isExact_ofRecord hr)

end Record

/-- The lines of two aggregates are the same only if these are. -/
theorem Aggregate.eq_of_line_eq {a b : Aggregate} (ha : a.FitsWords) (hb : b.FitsWords)
    (hline : (Record.aggregate a).line = (Record.aggregate b).line) : a = b := by
  have hobject : Json.ofRecord (.aggregate a) = Json.ofRecord (.aggregate b) := by
    rw [← Option.some_inj, ← Record.readLine?_line (r := .aggregate a) ha,
      ← Record.readLine?_line (r := .aggregate b) hb, hline]
  have hdecoded := Json.toAggregate_ofRecord ha
  rw [hobject, Json.toAggregate_ofRecord hb] at hdecoded
  exact (Except.ok.inj hdecoded).symm

/-- Ended lines are lines with one separator between any two, and an empty one at
    the end. -/
theorem flatMap_ended_eq_intercalate {α : Type} (x : α) (lines : List (List α)) :
    lines.flatMap (· ++ [x]) = [x].intercalate (lines ++ [[]]) := by
  induction lines with
  | nil => rfl
  | cons l ls ih =>
      obtain ⟨m, ms, hcons⟩ : ∃ m ms, ls ++ [[]] = m :: ms :=
        List.exists_cons_of_ne_nil (List.append_ne_nil_of_right_ne_nil _ (List.cons_ne_nil _ _))
      rw [List.flatMap_cons, ih, List.cons_append, hcons, List.intercalate_cons_cons]

/-- Split at line feeds, the bytes of some records are their lines. -/
theorem splitOn_bytesOf {rs : List Record} (hrs : ∀ r ∈ rs, r.FitsWords) :
    (Record.bytesOf .json rs).splitOn 10 = rs.map Record.line ++ [[]] := by
  have hbytes : Record.bytesOf .json rs = [10].intercalate (rs.map Record.line ++ [[]]) := by
    rw [← flatMap_ended_eq_intercalate, List.flatMap_map]
    exact List.flatMap_congr fun r _ => r.bytes_json
  rw [hbytes]
  refine List.splitOn_intercalate 10 ?_ (List.append_ne_nil_of_right_ne_nil _ (List.cons_ne_nil _ _))
  rw [List.forall_mem_append, List.forall_mem_map, List.forall_mem_singleton]
  exact ⟨fun r hr => Record.lineFeed_not_mem_line (hrs r hr), List.not_mem_nil⟩

/-- **LINES OF JSON** hold the records that they were written for: split at line
    feeds, the bytes on a stream are one line per record, in order; each is read as one
    object, that starts with the kind of its record and repeats no field name at any
    depth; the line of an aggregate is decoded as the aggregate, so different
    aggregates have different lines. -/
theorem json_lines_hold_records {rs : List Record} (hrs : ∀ r ∈ rs, r.FitsWords) :
    ((Stream.empty none).publishAll .json rs).1 = rs.map (fun _ => .ok ())
    ∧ ((Stream.empty none).publishAll .json rs).2.taken.splitOn 10
        = rs.map Record.line ++ [[]]
    ∧ (∀ r ∈ rs, ∃ fields,
        Json.readLine? r.line = some (.object (("record", .text r.kind) :: fields))
          ∧ (Json.object (("record", .text r.kind) :: fields)).Distinct)
    ∧ (∀ a, .aggregate a ∈ rs →
        (Json.readLine? (Record.aggregate a).line).map Json.toAggregate = some (.ok a))
    ∧ (∀ a b, .aggregate a ∈ rs → .aggregate b ∈ rs → a ≠ b →
        (Record.aggregate a).line ≠ (Record.aggregate b).line) := by
  refine ⟨?_, ?_, ?_, ?_, ?_⟩
  · exact Stream.publishAll_free .json rs rfl
  · rw [Stream.publishAll_snd]
    exact splitOn_bytesOf hrs
  · intro r hr
    obtain ⟨fields, hfields⟩ := r.exists_ofRecord_eq
    rw [Record.readLine?_line (hrs r hr)]
    exact ⟨fields, congrArg some hfields, hfields ▸ Json.distinct_ofRecord r⟩
  · intro a ha
    rw [Record.readLine?_line (hrs _ ha)]
    exact congrArg some (Json.toAggregate_ofRecord (hrs _ ha))
  · intro a b ha hb hne hline
    exact hne (Aggregate.eq_of_line_eq (hrs _ ha) (hrs _ hb) hline)

/-- A machine whose name takes two lines. -/
def twoLineHeader : Header :=
  { startedAt := ⟨0, 0⟩
    host := { hostname := "bench\n\"\\\u0001é", os := "linux", kernel := none, cpuModel := "𝄞",
              logicalCpus := 8, memoryBytes := 0 }
    dimensions := { duration := (TrialDuration.ofSecs 20).toOption.get rfl,
                    runs := (RunCount.ofWord 3).toOption.get rfl,
                    threads := [brokenAggregate.key.threads],
                    ratios := [brokenAggregate.key.ratio] }
    suites := [brokenAggregate.key.suite] }

/-- Three records of which two have line feeds in their texts are three lines, and the
    failures are read back. -/
theorem json_lines_two_line_texts :
    let fast : Aggregate :=
      { brokenAggregate with measurement := .median ⟨7, 5, 9, 57⟩, successes := 3, failures := [] }
    let rs := [.header twoLineHeader, .aggregate brokenAggregate, .aggregate fast]
    (∀ r ∈ rs, r.FitsWords)
    ∧ ((Stream.empty none).publishAll .json rs).2.taken.splitOn 10
        = [(Record.header twoLineHeader).line, (Record.aggregate brokenAggregate).line,
          (Record.aggregate fast).line, []]
    ∧ (Json.readLine? (Record.aggregate brokenAggregate).line).map Json.toAggregate
        = some (.ok brokenAggregate)
    ∧ (Record.aggregate brokenAggregate).line ≠ (Record.aggregate fast).line := by
  intro fast rs
  have hrs : ∀ r ∈ rs, r.FitsWords := by
    rw [List.forall_mem_cons, List.forall_mem_cons, List.forall_mem_singleton]
    exact ⟨trivial, ⟨by decide, by decide⟩, by decide, by decide⟩
  obtain ⟨-, hlines, -, hdecoded, hdifferent⟩ := json_lines_hold_records hrs
  have hbroken : Record.aggregate brokenAggregate ∈ rs := by decide
  have hfast : Record.aggregate fast ∈ rs := by decide
  exact ⟨hrs, hlines, hdecoded _ hbroken, hdifferent _ _ hbroken hfast (by decide)⟩

end BenchSweep
