import BenchSweep.Machine.Basic
import BenchSweep.Proofs.Report.Lines

/-! # Faults of a full stream

    A record is written in two parts, and what comes of a write that fails depends on
    the part: in JSON, the object counts as not made if it could not be written, and
    only the line feed behind it as not written.  So the fault of a stream that has no
    more room is that of a failed write for every record and every limit in text, but
    in JSON only where the limit leaves the object whole
    (`Record.failsAsWrite_iff_whole`). -/

namespace BenchSweep

namespace Stream

variable (s : Stream)

/-- A stream has room for a number of bytes, or for any. -/
def HasRoom (n : Nat) : Prop := ∀ room, s.room? = some room → n ≤ room

/-- Bytes fit into the room there is. -/
theorem write_fst_iff (bytes : List UInt8) :
    (s.write bytes).1 = true ↔ s.HasRoom bytes.length := by
  obtain ⟨taken, room?⟩ := s
  cases room? with
  | none => exact iff_of_true rfl nofun
  | some room =>
      rw [write, decide_eq_true_iff]
      exact ⟨fun hle _ hroom => Option.some.inj hroom ▸ hle, fun hroom => hroom room rfl⟩

/-- Writes a text to a stream, which answers with a reason once it is full. -/
def writer (reason : String) (text : String) : StateM Stream (Except String Unit) := fun s =>
  let (fits, s) := s.write (Text.encodeUtf8 text)
  (if fits then .ok () else .error reason, s)

end Stream

namespace Record

variable (format : Format) (r : Record) (s : Stream) (reason : String)

/-- What is answered when a record is written to a stream. -/
def answerOn : Except ReportFault Unit :=
  (Machine.writeRecord format (Stream.writer reason) r s).1

/-- Writing a record, part by part. -/
theorem writeRecord_writer :
    Machine.writeRecord format (Stream.writer reason) r s =
      let (fits, t) := s.write (Text.encodeUtf8 (r.body format))
      if fits then
        let (fits, t) := t.write (Text.encodeUtf8 format.ending)
        (if fits then .ok () else .error (.write reason), t)
      else (.error (format.bodyFault reason), t) := by
  unfold Machine.writeRecord
  simp only [bind, StateT.bind, Stream.writer]
  rcases s.write (Text.encodeUtf8 (r.body format)) with ⟨_ | _, t⟩
  · rfl
  · simp only [if_true, StateT.bind, Stream.writer]
    rcases t.write (Text.encodeUtf8 format.ending) with ⟨_ | _, t'⟩
    · rfl
    · rfl

/-- On a stream that says it is full, that is publishing. -/
theorem writeRecord_fullReason :
    Machine.writeRecord format (Stream.writer Stream.fullReason) r s = s.publish format r :=
  writeRecord_writer format r s Stream.fullReason

/-- The answer, by what there is room for. -/
theorem answerOn_eq :
    r.answerOn format s reason =
      if (s.write (Text.encodeUtf8 (r.body format))).1 then
        if (s.write (r.bytes format)).1 then .ok () else .error (.write reason)
      else .error (format.bodyFault reason) := by
  rw [answerOn, writeRecord_writer, bytes, Stream.write_append]
  rcases s.write (Text.encodeUtf8 (r.body format)) with ⟨_ | _, t⟩
  · rfl
  · rfl

/-! ## The answer in either format -/

/-- In text, nothing but the writing can fail. -/
theorem answerOn_text :
    r.answerOn .text s reason
      = if (s.write (r.bytes .text)).1 then .ok () else .error (.write reason) := by
  have hbytes : Text.encodeUtf8 (r.body .text) = r.bytes .text := by
    rw [bytes, Format.ending, encodeUtf8_empty, List.append_nil]
  rw [answerOn_eq, hbytes]
  split
  · rfl
  · rfl

variable {r s}

/-- In JSON, an object that does not fit counts as not made. -/
theorem answerOn_json_of_not_hasRoom (hcut : ¬ s.HasRoom r.line.length) :
    r.answerOn .json s reason = .error (.serialize reason) := by
  rw [answerOn_eq]
  exact if_neg fun hfits => hcut ((s.write_fst_iff r.line).mp hfits)

/-- In JSON, a line feed that does not fit behind its object counts as not written. -/
theorem answerOn_json_of_hasRoom (hwhole : s.HasRoom r.line.length) :
    r.answerOn .json s reason
      = if (s.write (r.bytes .json)).1 then .ok () else .error (.write reason) := by
  rw [answerOn_eq]
  exact if_pos ((s.write_fst_iff r.line).mpr hwhole)

variable (r s)

/-! ## Which faults are those of the stream -/

/-- **A FULL STREAM** shows as one: a record is published if there is room for all of
    its bytes, and otherwise the fault is that of a failed write, with the reason of
    the stream. -/
def FailsAsWrite : Prop :=
  (s.HasRoom (r.bytes format).length ∧ r.answerOn format s reason = .ok ())
    ∨ (¬ s.HasRoom (r.bytes format).length
      ∧ r.answerOn format s reason = .error (.write reason))

variable {format r s reason}

theorem failsAsWrite_of_answerOn_eq
    (hanswer : r.answerOn format s reason
      = if (s.write (r.bytes format)).1 then .ok () else .error (.write reason)) :
    r.FailsAsWrite format s reason ∧ ∀ why, r.answerOn format s reason ≠ .error (.serialize why) := by
  rw [FailsAsWrite, hanswer, ← Stream.write_fst_iff]
  cases (s.write (r.bytes format)).1 with
  | true => exact ⟨.inl ⟨rfl, rfl⟩, nofun⟩
  | false => exact ⟨.inr ⟨Bool.false_ne_true, rfl⟩, nofun⟩

variable (format r s reason)

/-- **THE FAULT OF A FULL STREAM** is that of a failed write, wherever the limit falls,
    just if the record is written in text or the limit leaves the object of its JSON
    whole; in the other case, and in no other, the record counts as one that could not
    be made. -/
theorem failsAsWrite_iff_whole :
    (r.FailsAsWrite format s reason ↔ format = .text ∨ s.HasRoom r.line.length)
    ∧ ∀ why, r.answerOn format s reason = .error (.serialize why) ↔
        why = reason ∧ format = .json ∧ ¬ s.HasRoom r.line.length := by
  cases format with
  | text =>
      obtain ⟨hwrite, hmade⟩ := failsAsWrite_of_answerOn_eq (r.answerOn_text s reason)
      exact ⟨iff_of_true hwrite (.inl rfl), fun why => iff_of_false (hmade why) nofun⟩
  | json =>
      by_cases hwhole : s.HasRoom r.line.length
      · obtain ⟨hwrite, hmade⟩ :=
          failsAsWrite_of_answerOn_eq (answerOn_json_of_hasRoom reason hwhole)
        exact ⟨iff_of_true hwrite (.inr hwhole),
          fun why => iff_of_false (hmade why) fun h => h.2.2 hwhole⟩
      · have hcut := answerOn_json_of_not_hasRoom reason hwhole
        constructor
        · refine iff_of_false ?_ ?_
          · rintro (⟨-, hok⟩ | ⟨-, hwrite⟩)
            · exact nomatch hcut.symm.trans hok
            · exact nomatch hcut.symm.trans hwrite
          · rintro (htext | hroom)
            · exact nomatch htext
            · exact hwhole hroom
        · intro why
          rw [hcut, Except.error.injEq, ReportFault.serialize.injEq, eq_comm]
          exact (and_iff_left ⟨rfl, hwhole⟩).symm

/-- A stream without room: of the same record, the line of text could not be written,
    but the object could not be made. -/
theorem cut_object_counts_as_unmade :
    let r := Record.aggregate brokenAggregate
    let s := Stream.empty (some 0)
    ¬ r.FailsAsWrite .json s Stream.fullReason
    ∧ (s.publish .json r).1 = .error (.serialize "sink full")
    ∧ (s.publish .text r).1 = .error (.write "sink full") := by
  intro r s
  have hnone : ∀ n, 0 < n → ¬ s.HasRoom n := fun n hn hroom =>
    Nat.not_le_of_lt hn (hroom 0 rfl)
  have hobject : 0 < r.line.length := by
    have hread := readLine?_line (r := r) ⟨by decide, by decide⟩
    refine List.length_pos_iff.mpr fun hempty => ?_
    rw [hempty] at hread
    exact nomatch hread
  have hjson := answerOn_json_of_not_hasRoom Stream.fullReason (hnone _ hobject)
  have htext : (s.write (r.bytes .text)).1 = false :=
    Bool.eq_false_iff.mpr fun hfits =>
      hnone _ (r.length_bytes_pos .text) ((s.write_fst_iff _).mp hfits)
  refine ⟨?_, ?_, ?_⟩
  · rintro (⟨-, hok⟩ | ⟨-, hwrite⟩)
    · exact nomatch hjson.symm.trans hok
    · exact nomatch hjson.symm.trans hwrite
  · rw [← writeRecord_fullReason]
    exact hjson
  · rw [← writeRecord_fullReason]
    exact (r.answerOn_text s Stream.fullReason).trans (by rw [htext]; rfl)

end Record

end BenchSweep
