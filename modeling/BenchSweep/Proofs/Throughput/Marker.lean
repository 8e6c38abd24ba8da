import BenchSweep.Proofs.Settings.Accepted
import BenchSweep.Proofs.Settings.Criterion
import BenchSweep.Proofs.Throughput

/-! # Which markers can be used

    A suite is accepted with any marker that has a visible character.  Of these, the
    markers that fit in a line find every figure that is printed behind them, and the
    others, with a line feed in them, find none in any output: no line holds them
    (`accepted_marker_usable_iff`). -/

namespace BenchSweep.Throughput

open Text

/-- A marker is **USABLE** if every figure is found that is printed behind it, after a
    space and before a line feed. -/
def Usable (marker : String) : Prop :=
  ∀ n : UInt64, extract? (marker ++ " " ++ toString n.toNat ++ "\n") marker = some n

/-- A marker that fits in a line is usable. -/
theorem usable_of_line {marker : String} (hmarker : '\n' ∉ marker.toList) : Usable marker := by
  intro n
  have hdigits : ∀ c ∈ decimal n.toNat, isBlank c = false := by
    intro c hc
    exact isBlank_of_isDigit (isDigit_of_mem_decimal hc)
  rw [← toList_toString] at hdigits
  have hne : (toString n.toNat).toList ≠ [] := by
    rw [toList_toString]
    exact decimal_ne_nil n.toNat
  rw [extract?_word hmarker hne hdigits "\n" (List.mem_cons_of_mem _ List.mem_cons_self),
    toList_toString, ofWord?_decimal (Nat.le_sub_one_of_lt n.toNat_lt), Option.map_some,
    UInt64.ofNat_toNat]

/-- A marker that does not fit in a line is found in no output. -/
theorem extract?_eq_none_of_lineFeed {marker : String} (hmarker : '\n' ∈ marker.toList)
    (output : String) : extract? output marker = none := by
  have hnone : ∀ l ∈ lines output.toList, contains marker.toList l = false := by
    intro l hl
    rw [contains_eq_false_iff]
    intro hheld
    exact lineFeed_not_mem_of_mem_lines hl (hheld.subset hmarker)
  rw [extract?, find?_eq_none hnone]
  rfl

/-- **USABLE MARKERS.**  Of the markers that suites are accepted with, those without a
    line feed, and only those, are usable; and only those find a figure in any output. -/
theorem accepted_marker_usable_iff {binDir : String} {raw : RawSuite} {suite : Suite}
    (haccepted : Settings.validateSuite binDir raw = .ok suite) :
    (Usable suite.marker ↔ '\n' ∉ (raw.marker?.getD defaultMarker).toList) ∧
    ((∃ output figure, extract? output suite.marker = some figure) ↔
      '\n' ∉ (raw.marker?.getD defaultMarker).toList) := by
  obtain ⟨-, -, -, hmarker, -⟩ := (Settings.validateSuite_eq_ok_iff _ _ _).mp haccepted
  obtain ⟨-, hwritten⟩ := (Settings.validateMarker_eq_ok_iff _ _).mp hmarker
  rw [← hwritten]
  have hfound : (∃ output figure, extract? output suite.marker = some figure) →
      '\n' ∉ suite.marker.toList := by
    rintro ⟨output, figure, hfigure⟩ hfeed
    exact nomatch (extract?_eq_none_of_lineFeed hfeed output).symm.trans hfigure
  constructor
  · constructor
    · intro husable
      exact hfound ⟨_, 0, husable 0⟩
    · exact usable_of_line
  · constructor
    · exact hfound
    · intro hline
      exact ⟨_, 0, usable_of_line hline 0⟩

/-- A suite of one variant, with its marker as written. -/
def markedRaw (marker : String) : RawSuite :=
  { name := "set-ll-512", marker? := some marker, variants := [{ name := "michael" }] }

/-- The suite that this makes of a marker with a visible character. -/
def markedSuite (marker : String) : Suite :=
  { name := ⟨"set-ll-512", by decide +kernel⟩
    executable := Path.join "bin" "set-ll-512"
    encoding := .flags
    keys := none
    marker
    variants := [{ name := ⟨"michael", by decide +kernel⟩, label := "" }] }

/-- A marker of two words, with blanks of several kinds around them. -/
theorem indented_marker_usable :
    Settings.validateSuite "bin" (markedRaw "\tTotal ops\r =") = .ok (markedSuite "\tTotal ops\r =") ∧
      Usable "\tTotal ops\r =" := by
  have haccepted : Settings.validateSuite "bin" (markedRaw "\tTotal ops\r =")
      = .ok (markedSuite "\tTotal ops\r =") := by decide +kernel
  exact ⟨haccepted, (accepted_marker_usable_iff haccepted).1.mpr (by decide)⟩

/-- The default marker, written as a block of one line: it is accepted, and there is no
    figure behind it, nor anywhere else. -/
theorem block_marker_unusable :
    Settings.validateSuite "bin" (markedRaw "Ops/sec =\n") = .ok (markedSuite "Ops/sec =\n") ∧
      extract? ("Ops/sec =\n" ++ " " ++ toString (7 : UInt64).toNat ++ "\n") "Ops/sec =\n" = none ∧
      (∀ output, extract? output "Ops/sec =\n" = none) ∧
      ¬ Usable "Ops/sec =\n" := by
  have hfeed : '\n' ∈ "Ops/sec =\n".toList := by decide
  have hnone := extract?_eq_none_of_lineFeed hfeed
  refine ⟨by decide +kernel, hnone _, hnone, ?_⟩
  intro husable
  exact nomatch (hnone _).symm.trans (husable 7)

end BenchSweep.Throughput
