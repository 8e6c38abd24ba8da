import BenchSweep.Proofs.Text.Utf8
import BenchSweep.Report.Stream

/-! # Streams with a limit

    A stream with room for a number of bytes takes that many of what a stream
    without a limit would take, whatever the records and wherever the limit falls
    (`limited_stream_keeps_front`).  In how many pieces a record is written makes no
    difference, as each piece is written only if those before it fitted
    (`writeEach_eq_write`). -/

namespace BenchSweep

/-! ## The bytes of a record -/

theorem encodeUtf8_lineFeed : Text.encodeUtf8 "\n" = [10] := by
  rw [Text.encodeUtf8_eq_flatMap]
  rfl

theorem encodeUtf8_empty : Text.encodeUtf8 "" = [] := by
  rw [Text.encodeUtf8_eq_flatMap]
  rfl

/-- The last line of a header names the columns. -/
theorem Header.exists_text_eq_append (h : Header) : ∃ front, h.text = front ++ "\n" := by
  have hcolumns : "suite\tvariant\tthreads\tratio\tmedian\tsuccesses\n"
      = "suite\tvariant\tthreads\tratio\tmedian\tsuccesses" ++ "\n" := by decide
  exact ⟨_, (congrArg (_ ++ ·) hcolumns).trans (String.append_assoc ..).symm⟩

/-- Every record ends with a line feed, in either format. -/
theorem Record.exists_bytes_eq_concat (format : Format) (r : Record) :
    ∃ line, r.bytes format = line ++ [10] := by
  cases format with
  | json => exact ⟨_, congrArg (_ ++ ·) encodeUtf8_lineFeed⟩
  | text =>
      have hbody : ∃ front, r.body .text = front ++ "\n" := by
        cases r with
        | aggregate a => exact ⟨_, rfl⟩
        | header h => exact h.exists_text_eq_append
      obtain ⟨front, hfront⟩ := hbody
      refine ⟨Text.encodeUtf8 front, ?_⟩
      rw [Record.bytes, Format.ending, encodeUtf8_empty, List.append_nil, hfront, Text.encodeUtf8_append,
        encodeUtf8_lineFeed]

theorem Record.length_bytes_pos (format : Format) (r : Record) : 0 < (r.bytes format).length := by
  obtain ⟨line, hline⟩ := r.exists_bytes_eq_concat format
  rw [hline, List.length_append]
  exact Nat.lt_add_left _ Nat.one_pos

namespace Stream

variable (s : Stream)

/-! ## Writing -/

@[simp] theorem write_nil : s.write [] = (true, s) := by
  obtain ⟨taken, room?⟩ := s
  cases room? with
  | none => rw [write, List.append_nil]
  | some room => simp [write]

/-- Bytes that are written in two parts: the second is tried only if the first
    fitted. -/
theorem write_append (xs ys : List UInt8) :
    s.write (xs ++ ys)
      = if (s.write xs).1 then (s.write xs).2.write ys else (false, (s.write xs).2) := by
  obtain ⟨taken, room?⟩ := s
  cases room? with
  | none => simp only [write, List.append_assoc, if_true]
  | some room =>
      simp only [write, List.length_append, decide_eq_true_iff]
      split
      · next hfits =>
          rw [List.take_append, List.take_of_length_le hfits, List.append_assoc, Nat.sub_add_eq]
          have hiff : xs.length + ys.length ≤ room ↔ ys.length ≤ room - xs.length := by omega
          rw [decide_eq_decide.mpr hiff]
      · next hfull =>
          have hnone : room - xs.length = 0 := by omega
          have hsum : room - (xs.length + ys.length) = 0 := by omega
          have hlong : ¬ xs.length + ys.length ≤ room := by omega
          rw [List.take_append, hnone, hsum, decide_eq_false hlong, List.take_zero, List.append_nil]

/-- A write that did not fit leaves no room. -/
theorem write_write_of_full {xs : List UInt8} (hfull : (s.write xs).1 = false) (ys : List UInt8) :
    ((s.write xs).2.write ys).2 = (s.write xs).2 := by
  obtain ⟨taken, room?⟩ := s
  cases room? with
  | none => exact nomatch hfull
  | some room =>
      have hnone : room - xs.length = 0 := by
        have := of_decide_eq_false hfull
        omega
      simp only [write, hnone, List.take_zero, List.append_nil, Nat.zero_sub]

/-- Where two writes lead is where one write of both leads. -/
theorem write_write_snd (xs ys : List UInt8) :
    ((s.write xs).2.write ys).2 = (s.write (xs ++ ys)).2 := by
  rw [write_append]
  split
  · rfl
  · next hfull => exact s.write_write_of_full (Bool.eq_false_iff.mpr hfull) ys

/-- **PIECES** make no difference: they fit, and lead to, what the whole does. -/
theorem writeEach_eq_write (pieces : List (List UInt8)) :
    s.writeEach pieces = s.write pieces.flatten := by
  induction pieces generalizing s with
  | nil => rw [writeEach, List.flatten_nil, write_nil]
  | cons piece pieces ih =>
      rw [List.flatten_cons, write_append, writeEach, ← ih]

/-! ## Publishing -/

variable (format : Format)

/-- A record is written as its bytes, and is published if they fit. -/
theorem publish_eq_write (r : Record) :
    (s.publish format r).2 = (s.write (r.bytes format)).2
      ∧ ((s.publish format r).1 = .ok () ↔ (s.write (r.bytes format)).1 = true) := by
  rw [publish, Record.bytes, write_append]
  rcases s.write (Text.encodeUtf8 (r.body format)) with ⟨_ | _, t⟩
  · refine ⟨rfl, ?_⟩
    show Except.error _ = Except.ok () ↔ false = true
    exact iff_of_false (fun h => nomatch h) Bool.false_ne_true
  · show (if (t.write _).1 then _ else _, (t.write _).2).2 = (t.write _).2
      ∧ ((if (t.write _).1 then Except.ok () else Except.error _) = Except.ok ()
        ↔ (t.write _).1 = true)
    cases (t.write (Text.encodeUtf8 format.ending)).1 with
    | false => exact ⟨rfl, iff_of_false (fun h => nomatch h) Bool.false_ne_true⟩
    | true => exact ⟨rfl, iff_of_true rfl rfl⟩

/-- Records are written as their bytes, one after the other. -/
theorem publishAll_snd (rs : List Record) :
    (s.publishAll format rs).2 = (s.write (Record.bytesOf format rs)).2 := by
  induction rs generalizing s with
  | nil => rw [publishAll, Record.bytesOf, List.flatMap_nil, write_nil]
  | cons r rs ih =>
      rw [Record.bytesOf, List.flatMap_cons, ← write_write_snd, ← (s.publish_eq_write format r).1]
      exact ih _

theorem length_publishAll (rs : List Record) : (s.publishAll format rs).1.length = rs.length := by
  induction rs generalizing s with
  | nil => rfl
  | cons r rs ih => exact congrArg (· + 1) (ih _)

/-- A record is published on the stream that those before it have left. -/
theorem getElem?_publishAll {rs : List Record} {i : Nat} (hi : i < rs.length) :
    (s.publishAll format rs).1[i]?
      = some ((s.publishAll format (rs.take i)).2.publish format rs[i]).1 := by
  induction rs generalizing s i with
  | nil => exact absurd hi (Nat.not_lt_zero i)
  | cons r rs ih =>
      cases i with
      | zero => rfl
      | succ i => exact ih _ (Nat.lt_of_succ_lt_succ hi)

variable {s} in
/-- A stream without a limit takes every record. -/
theorem publishAll_free (rs : List Record) (hfree : s.room? = none) :
    (s.publishAll format rs).1 = rs.map fun _ => .ok () := by
  induction rs generalizing s with
  | nil => rfl
  | cons r rs ih =>
      obtain ⟨taken, room?⟩ := s
      obtain rfl : room? = none := hfree
      obtain ⟨hstream, hanswer⟩ := publish_eq_write ⟨taken, none⟩ format r
      have hrest : ((⟨taken, none⟩ : Stream).publish format r).2.room? = none := by
        rw [hstream]
        rfl
      exact List.cons_eq_cons.mpr ⟨hanswer.mpr rfl, ih hrest⟩

/-! ## A limit -/

section Limit

variable {rs : List Record} {limit i j : Nat}

theorem bytesOf_take_succ (hi : i < rs.length) :
    Record.bytesOf format (rs.take (i + 1))
      = Record.bytesOf format (rs.take i) ++ rs[i].bytes format := by
  rw [List.take_succ_eq_append_getElem hi, Record.bytesOf, List.flatMap_append,
    List.flatMap_singleton]
  rfl

/-- More records have more bytes, behind those of the first. -/
theorem bytesOf_take_prefix (rs : List Record) (hij : i ≤ j) :
    Record.bytesOf format (rs.take i) <+: Record.bytesOf format (rs.take j) := by
  obtain ⟨rest, hrest⟩ := List.take_prefix_take_left hij (l := rs)
  exact ⟨Record.bytesOf format rest, by
    rw [Record.bytesOf, Record.bytesOf, Record.bytesOf, ← List.flatMap_append, hrest]⟩

/-- A stream with a limit takes the front of all bytes. -/
theorem publishAll_limited (rs : List Record) (limit : Nat) :
    ((empty (some limit)).publishAll format rs).2
      = ⟨(Record.bytesOf format rs).take limit,
        some (limit - (Record.bytesOf format rs).length)⟩ := by
  rw [publishAll_snd]
  rfl

/-- A record is published if the limit is not below the bytes up to its end. -/
theorem answer_limited (hi : i < rs.length) :
    ((empty (some limit)).publishAll format rs).1[i]? = some (.ok ())
      ↔ (Record.bytesOf format (rs.take (i + 1))).length ≤ limit := by
  have hpos := rs[i].length_bytes_pos format
  have hfits : (rs[i].bytes format).length ≤ limit - (Record.bytesOf format (rs.take i)).length
      ↔ (Record.bytesOf format (rs.take (i + 1))).length ≤ limit := by
    rw [bytesOf_take_succ format hi, List.length_append]
    omega
  rw [getElem?_publishAll _ _ hi, Option.some_inj, publishAll_limited, (publish_eq_write _ _ _).2,
    ← hfits]
  exact decide_eq_true_iff

/-- A record is refused if it is not published. -/
theorem fault_limited (hi : i < rs.length) :
    (∃ fault, ((empty (some limit)).publishAll format rs).1[i]? = some (.error fault))
      ↔ limit < (Record.bytesOf format (rs.take (i + 1))).length := by
  rw [← Nat.not_le, ← answer_limited format hi, getElem?_publishAll _ _ hi]
  rcases ((publishAll _ format (rs.take i)).2.publish format rs[i]).1 with fault | ⟨⟩
  · exact iff_of_true ⟨fault, rfl⟩ (fun h => nomatch h)
  · exact iff_of_false (fun ⟨_, h⟩ => nomatch h) (fun h => h rfl)

/-- What does not fit is the same with more behind it. -/
theorem take_publishAll_limited (hij : i ≤ j)
    (hfull : limit < (Record.bytesOf format (rs.take i)).length) :
    ((empty (some limit)).publishAll format (rs.take j)).2
      = ((empty (some limit)).publishAll format (rs.take i)).2 := by
  obtain ⟨more, hmore⟩ := bytesOf_take_prefix format rs hij
  rw [publishAll_limited, publishAll_limited, ← hmore, List.length_append,
    List.take_append_of_le_length (Nat.le_of_lt hfull)]
  congr 2
  omega

end Limit

end Stream

/-- **A LIMITED STREAM** keeps the first bytes of what an unlimited one takes: of any
    records, in either format, as many as it has room for.  Each record has an answer,
    and it is published just if the room reaches to its end; once one is refused, all
    later ones are, and nothing more is taken.  In which pieces a record is written
    makes no difference. -/
theorem limited_stream_keeps_front (format : Format) (rs : List Record) (limit : Nat) :
    let free := (Stream.empty none).publishAll format rs
    let limited (records : List Record) := (Stream.empty (some limit)).publishAll format records
    free.2.taken = Record.bytesOf format rs
    ∧ (limited rs).2.taken = free.2.taken.take limit
    ∧ (limited rs).1.length = rs.length
    ∧ (∀ i, i < rs.length →
        ((limited rs).1[i]? = some (.ok ())
          ↔ (Record.bytesOf format (rs.take (i + 1))).length ≤ limit))
    ∧ (∀ i j fault, i ≤ j → j < rs.length → (limited rs).1[i]? = some (.error fault) →
        (∃ later, (limited rs).1[j]? = some (.error later))
          ∧ (limited (rs.take (j + 1))).2 = (limited (rs.take (i + 1))).2)
    ∧ (∀ (s : Stream) r pieces, pieces.flatten = r.bytes format →
        (s.writeEach pieces).2 = (s.publish format r).2
          ∧ ((s.writeEach pieces).1 = true ↔ (s.publish format r).1 = .ok ())) := by
  intro free limited
  have hfree : free.2.taken = Record.bytesOf format rs :=
    congrArg Stream.taken (Stream.publishAll_snd _ format rs)
  refine ⟨hfree, ?_, Stream.length_publishAll _ format rs, ?_, ?_, ?_⟩
  · rw [hfree]
    exact congrArg Stream.taken (Stream.publishAll_limited format rs limit)
  · exact fun i hi => Stream.answer_limited format hi
  · intro i j fault hij hj hfault
    have hfull := (Stream.fault_limited format (Nat.lt_of_le_of_lt hij hj)).mp ⟨fault, hfault⟩
    have hlonger := (Stream.bytesOf_take_prefix format rs (Nat.succ_le_succ hij)).length_le
    exact ⟨(Stream.fault_limited format hj).mpr (Nat.lt_of_lt_of_le hfull hlonger),
      Stream.take_publishAll_limited format (Nat.succ_le_succ hij) hfull⟩
  · intro s r pieces hpieces
    obtain ⟨hstream, hanswer⟩ := s.publish_eq_write format r
    rw [Stream.writeEach_eq_write, hpieces, hstream, hanswer]
    exact ⟨rfl, Iff.rfl⟩

/-- A configuration without a figure, and a text that has to be escaped in JSON. -/
def brokenAggregate : Aggregate :=
  { key := { suite := (Name.ofString .suite "set-ll-1k").toOption.get rfl,
             variant := (Name.ofString .variant "mh-hp").toOption.get rfl,
             threads := (ThreadCount.ofWord 4).toOption.get rfl,
             ratio := (Permil.ofWord 100).toOption.get rfl },
    measurement := .failed, successes := 0, runs := 3,
    failures := [.timeout 3000, .launch "no \"such\"\nfile"] }

/-- The second of three records fits but for its line feed: it is refused, and so is
    the third.  The same is taken if a record is written byte by byte. -/
theorem limited_stream_misses_lineFeed :
    let rs := List.replicate 3 (Record.aggregate brokenAggregate)
    let bytewise := ((Record.aggregate brokenAggregate).bytes .json).map fun b => [b]
    (1 ≤ 2 ∧ 2 < rs.length ∧ bytewise.flatten = (Record.aggregate brokenAggregate).bytes .json)
    ∧ ∃ fault, ((Stream.empty (some 441)).publishAll .json rs).1[1]? = some (.error fault)
      ∧ (∃ later, ((Stream.empty (some 441)).publishAll .json rs).1[2]? = some (.error later))
      ∧ ((Stream.empty (some 441)).publishAll .json (rs.take 3)).2
          = ((Stream.empty (some 441)).publishAll .json (rs.take 2)).2
      ∧ ((Stream.empty (some 100)).writeEach bytewise).2
          = ((Stream.empty (some 100)).publish .json (.aggregate brokenAggregate)).2 := by
  intro rs bytewise
  have hlast : 2 < rs.length := by decide
  have hpieces : bytewise.flatten = (Record.aggregate brokenAggregate).bytes .json := by
    rw [← List.flatMap_def, List.flatMap_singleton']
  have hshort : 441 < (Record.bytesOf .json (rs.take 2)).length := by decide +kernel
  obtain ⟨fault, hfault⟩ := (Stream.fault_limited .json (by decide)).mpr hshort
  obtain ⟨-, -, -, -, hlater, heach⟩ := limited_stream_keeps_front .json rs 441
  obtain ⟨hrefused, hsame⟩ := hlater 1 2 fault (by decide) hlast hfault
  exact ⟨⟨by decide, hlast, hpieces⟩, fault, hfault, hrefused, hsame, (heach _ _ _ hpieces).1⟩

end BenchSweep
