import BenchSweep.Proofs.Report.Lines
import BenchSweep.Proofs.Settings.Criterion

/-! # Rows of text

    In text, an aggregate is one row of six columns (`splitOn_text`).  Names hold
    neither tabs nor line feeds, since they are checked for other characters when they
    are made, and numbers consist of digits; so the columns can be told apart, and they
    are read back as what they say of the aggregate (`read?_text`).  The object of the
    same aggregate says the same (`text_agrees_with_json`). -/

namespace BenchSweep

open Text

/-! ## Characters of a column -/

theorem Name.not_mem_text {role : Role} (name : Name role) {c : Char}
    (hc : isNameChar c = false) : c ∉ name.text.toList :=
  fun h => nomatch (Name.isNameChar_of_mem h).symm.trans hc

theorem Measurement.toList_text (m : Measurement) :
    m.text.toList = match m.median? with
      | some figure => decimal figure.toNat
      | none        => "FAILED".toList := by
  cases m with
  | median stats => exact toList_toString _
  | failed => rfl

theorem Measurement.not_mem_text (m : Measurement) {c : Char}
    (hc : c.isDigit = false) (hfailed : c ∉ "FAILED".toList) : c ∉ m.text.toList := by
  rw [toList_text]
  cases m.median? with
  | some figure => exact not_mem_decimal hc
  | none => exact hfailed

/-- What is in no part, and is no separator, is not in the whole. -/
theorem not_mem_intercalate {α : Type} {x y : α} (hxy : x ≠ y) :
    ∀ {parts : List (List α)}, (∀ part ∈ parts, x ∉ part) → x ∉ [y].intercalate parts
  | [], _ => List.not_mem_nil
  | [part], hparts => by
      rw [List.intercalate_singleton]
      exact hparts part List.mem_cons_self
  | part :: next :: parts, hparts => by
      rw [List.forall_mem_cons] at hparts
      rw [List.intercalate_cons_cons, List.mem_append, List.mem_append, List.mem_singleton]
      rintro ((h | h) | h)
      · exact hparts.1 h
      · exact hxy h
      · exact not_mem_intercalate hxy hparts.2 h

/-- The last column, as characters. -/
theorem toList_share (successes runs : Nat) :
    (toString successes ++ "/" ++ toString runs).toList
      = ['/'].intercalate [decimal successes, decimal runs] := by
  rw [String.toList_append, String.toList_append, toList_toString, toList_toString,
    List.intercalate_cons_cons, List.intercalate_singleton]
  rfl

namespace Aggregate

variable (a : Aggregate)

/-- What separates columns and rows stands in no column. -/
theorem not_mem_columns {c : Char} (hc : c = '\t' ∨ c = '\n') :
    ∀ column ∈ a.columns.map String.toList, c ∉ column := by
  have hname : isNameChar c = false ∧ c.isDigit = false ∧ c ∉ "FAILED".toList ∧ c ≠ '/' := by
    rcases hc with rfl | rfl
    · decide
    · decide
  obtain ⟨hname, hdigit, hfailed, hslash⟩ := hname
  rw [List.forall_mem_map, columns]
  simp only [List.forall_mem_cons]
  refine ⟨a.key.suite.not_mem_text hname, a.key.variant.not_mem_text hname, ?_, ?_,
    a.measurement.not_mem_text hdigit hfailed, ?_, fun _ h => nomatch h⟩
  · rw [ThreadCount.text, toList_toString]
    exact not_mem_decimal hdigit
  · rw [Permil.text, toList_toString]
    exact not_mem_decimal hdigit
  · rw [String.toList_append, String.toList_append, toList_toString, toList_toString,
      List.mem_append, List.mem_append]
    rintro ((h | h) | h)
    · exact not_mem_decimal hdigit h
    · exact hslash (List.mem_singleton.mp h)
    · exact not_mem_decimal hdigit h

/-- The characters of a row. -/
theorem toList_text :
    a.text.toList = ['\n'].intercalate [['\t'].intercalate (a.columns.map String.toList), []] := by
  rw [text, String.toList_append, String.toList_intercalate]
  simp

/-- **A ROW** is one line, and the line is its columns. -/
theorem splitOn_text :
    ∃ line, a.text.toList.splitOn '\n' = [line, []]
      ∧ line.splitOn '\t' = a.columns.map String.toList := by
  have hcolumns : (['\t'].intercalate (a.columns.map String.toList)).splitOn '\t'
      = a.columns.map String.toList :=
    List.splitOn_intercalate '\t' (a.not_mem_columns (.inl rfl)) (List.cons_ne_nil _ _)
  have hline : '\n' ∉ ['\t'].intercalate (a.columns.map String.toList) :=
    not_mem_intercalate (by decide) (a.not_mem_columns (.inr rfl))
  refine ⟨_, ?_, hcolumns⟩
  rw [toList_text]
  refine List.splitOn_intercalate '\n' ?_ (List.cons_ne_nil _ _)
  rw [List.forall_mem_cons, List.forall_mem_singleton]
  exact ⟨hline, List.not_mem_nil⟩

end Aggregate

/-! ## Reading the columns -/

namespace Row

theorem readMedian?_text (m : Measurement) : readMedian? m.text.toList = some m.median? := by
  rw [readMedian?, m.toList_text]
  cases m.median? with
  | none => exact if_pos rfl
  | some figure =>
      have hdigits : decimal figure.toNat ≠ "FAILED".toList := by
        intro h
        have hletter : 'F' ∈ decimal figure.toNat := h ▸ by decide
        exact not_mem_decimal rfl hletter
      show (if decimal figure.toNat = _ then _ else _) = _
      rw [if_neg hdigits, numeralBelow?_decimal figure.toNat_lt]
      exact congrArg (some ∘ some) UInt64.ofNat_toNat

theorem readShare?_text (successes runs : Nat) :
    readShare? (toString successes ++ "/" ++ toString runs).toList = some (successes, runs) := by
  have hslash : ∀ part ∈ [decimal successes, decimal runs], '/' ∉ part := by
    rw [List.forall_mem_cons, List.forall_mem_singleton]
    exact ⟨not_mem_decimal rfl, not_mem_decimal rfl⟩
  rw [readShare?, toList_share, List.splitOn_intercalate '/' hslash (List.cons_ne_nil _ _)]
  simp only [value?_decimal]
  rfl

theorem ofColumns?_columns (a : Aggregate) :
    ofColumns? (a.columns.map String.toList) = some a.row := by
  have hname : ∀ {role : Role} (name : Name role),
      Name.ofString role (String.ofList name.text.toList) = .ok name := by
    intro role name
    rw [String.ofList_toList]
    exact (Name.ofString_eq_ok_iff ..).mpr rfl
  have hthreads : numeralBelow? (2 ^ 32) a.key.threads.text.toList = some a.key.threads.val.toNat := by
    rw [ThreadCount.text, toList_toString, numeralBelow?_decimal a.key.threads.val.toNat_lt]
  have hratio : numeralBelow? (2 ^ 32) a.key.ratio.text.toList = some a.key.ratio.val.toNat := by
    rw [Permil.text, toList_toString, numeralBelow?_decimal a.key.ratio.val.toNat_lt]
  have hcount : ThreadCount.ofWord a.key.threads.val = .ok a.key.threads :=
    (ThreadCount.ofWord_eq_ok_iff ..).mpr rfl
  have hpermil : Permil.ofWord a.key.ratio.val = .ok a.key.ratio :=
    (Permil.ofWord_eq_ok_iff ..).mpr rfl
  simp only [Aggregate.columns, List.map_cons, List.map_nil, ofColumns?, hname, hthreads, hratio,
    UInt32.ofNat_toNat, hcount, hpermil, readMedian?_text, readShare?_text, Except.toOption,
    Option.bind_eq_bind, Option.bind_some]
  rfl

/-- **A ROW** is read back as what it says of the aggregate. -/
theorem read?_text (a : Aggregate) : read? a.text.toList = some a.row := by
  obtain ⟨line, hrow, hline⟩ := a.splitOn_text
  rw [read?, hrow]
  show ofColumns? (line.splitOn '\t') = _
  rw [hline, ofColumns?_columns]

end Row

/-! ## Both formats -/

/-- The columns say no more than the row. -/
theorem Aggregate.text_eq_of_row_eq {a b : Aggregate} (hrow : a.row = b.row) : a.text = b.text := by
  simp only [Aggregate.row, Row.mk.injEq] at hrow
  obtain ⟨hsuite, hvariant, hthreads, hratio, hmedian, hsuccesses, hruns⟩ := hrow
  have hmeasurement : a.measurement.text = b.measurement.text := by
    rw [← String.toList_inj, Measurement.toList_text, Measurement.toList_text, hmedian]
  rw [Aggregate.text, Aggregate.text, Aggregate.columns, Aggregate.columns, hsuite, hvariant,
    hthreads, hratio, hmeasurement, hsuccesses, hruns]

theorem Aggregate.text_eq_iff {a b : Aggregate} : a.text = b.text ↔ a.row = b.row := by
  refine ⟨fun htext => ?_, Aggregate.text_eq_of_row_eq⟩
  rw [← Option.some_inj, ← Row.read?_text, ← Row.read?_text, htext]

/-- **TEXT AND JSON** agree: the record of an aggregate in text is one line of six
    columns, none of which holds a tab or a line feed; they are read back as a row, and
    the row of the aggregate that its line of JSON is decoded as is the same.  So two
    aggregates have the same text just if they have the same row. -/
theorem text_agrees_with_json {a : Aggregate} (ha : a.FitsWords) :
    (∃ text line, Text.validUtf8? ((Record.aggregate a).bytes .text) = some text
      ∧ text.splitOn '\n' = [line, []]
      ∧ (line.splitOn '\t').length = 6
      ∧ (∀ column ∈ line.splitOn '\t', '\t' ∉ column ∧ '\n' ∉ column)
      ∧ Row.read? text = some a.row)
    ∧ (Json.readLine? (Record.aggregate a).line).map
        (fun v => (Json.toAggregate v).map Aggregate.row) = some (.ok a.row)
    ∧ ∀ b, (Record.aggregate a).bytes .text = (Record.aggregate b).bytes .text
        ↔ a.row = b.row := by
  have hbytes : ∀ b, (Record.aggregate b).bytes .text = Text.encodeUtf8 b.text := by
    intro b
    rw [Record.bytes, Format.ending, encodeUtf8_empty, List.append_nil]
    rfl
  obtain ⟨line, hrow, hline⟩ := a.splitOn_text
  refine ⟨⟨a.text.toList, line, ?_, hrow, ?_, ?_, Row.read?_text a⟩, ?_, ?_⟩
  · rw [hbytes, Text.validUtf8?_encodeUtf8]
  · rw [hline]
    rfl
  · rw [hline]
    exact fun column hcolumn => ⟨a.not_mem_columns (.inl rfl) column hcolumn,
      a.not_mem_columns (.inr rfl) column hcolumn⟩
  · rw [Record.readLine?_line (r := .aggregate a) ha, Option.map_some,
      Json.toAggregate_ofRecord ha]
    rfl
  · intro b
    rw [hbytes, hbytes, Text.encodeUtf8_injective.eq_iff, Aggregate.text_eq_iff]

/-- A failed configuration: its failures do not show in its text, its successes do. -/
theorem text_agrees_with_json_broken :
    brokenAggregate.FitsWords
    ∧ (Json.readLine? (Record.aggregate brokenAggregate).line).map
        (fun v => (Json.toAggregate v).map Aggregate.row) = some (.ok brokenAggregate.row)
    ∧ (Record.aggregate brokenAggregate).bytes .text
        = (Record.aggregate { brokenAggregate with failures := [] }).bytes .text
    ∧ (Record.aggregate brokenAggregate).bytes .text
        ≠ (Record.aggregate { brokenAggregate with successes := 1 }).bytes .text := by
  have hwords : brokenAggregate.FitsWords := ⟨by decide, by decide⟩
  obtain ⟨-, hjson, htext⟩ := text_agrees_with_json hwords
  exact ⟨hwords, hjson, (htext _).mpr rfl, fun h => absurd ((htext _).mp h) (by decide)⟩

end BenchSweep
