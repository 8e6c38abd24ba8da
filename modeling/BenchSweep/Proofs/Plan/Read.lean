import BenchSweep.Proofs.Plan.Hours
import BenchSweep.Proofs.Report.Row

/-! # Reading plans

    A plan ends in a table and the line of the total, each behind an empty line.
    `PlanReport.read?` reads these two from the end of a text: it goes by the titles of
    the columns and by the words around the figures, and takes the figures from between
    the blanks.

    * **`words_append_blank`** — a blank parts words; all else about words follows.
    * **`PlanLine.ofWords?_text`** — a row is read as what it shows, however its columns
      are filled up.
    * **`PlanReport.read?_text`** — a table and a total are read back as what they show,
      whatever stands before them. -/

namespace BenchSweep

/-- What a line of the table shows of a suite. -/
structure PlanLine where
  suite          : String
  variants       : Nat
  configurations : Nat
  trials         : Nat
  hours          : String
deriving DecidableEq

/-- What a plan shows: its table and its total. -/
structure PlanReport where
  lines  : List PlanLine
  trials : Nat
  hours  : String
deriving DecidableEq

/-- The words of a line: what stands between blanks. -/
def Text.words (line : List Char) : List (List Char) :=
  (line.splitOn ' ').filter fun word => !word.isEmpty

namespace PlanLine

/-- What stands above the columns. -/
def titles : List (List Char) :=
  ["SUITE".toList, "VARIANTS".toList, "CONFIGURATIONS".toList, "TRIALS".toList, "HOURS".toList]

/-- A line from its words. -/
def ofWords? : List (List Char) → Option PlanLine
  | [suite, variants, configurations, trials, hours] => do
      let variants ← Text.value? 10 variants
      let configurations ← Text.value? 10 configurations
      let trials ← Text.value? 10 trials
      return { suite := String.ofList suite, variants, configurations, trials,
               hours := String.ofList hours }
  | _ => none

end PlanLine

namespace PlanReport

/-- The words around the figures of the total. -/
def totalWords : List (List Char) :=
  ["Total:".toList, "trial(s),".toList, "about".toList, "hour(s)".toList, "at".toList,
    "full".toList, "duration".toList]

/-- Trials and hours from the words of the line of the total. -/
def readTotal? : List (List Char) → Option (Nat × String)
  | total :: trials :: unit :: about :: hours :: rest =>
      if total :: unit :: about :: rest = totalWords then do
        return (← Text.value? 10 trials, String.ofList hours)
      else none
  | _ => none

/-- The plan that a text ends in. -/
def read? (text : String) : Option PlanReport :=
  match ((text.toList.splitOn '\n').splitOn []).reverse with
  | [] :: [total] :: (titles :: rows) :: _ =>
      if Text.words titles = PlanLine.titles then do
        let lines ← rows.mapM fun row => PlanLine.ofWords? (Text.words row)
        let (trials, hours) ← readTotal? (Text.words total)
        return { lines, trials, hours }
      else none
  | _ => none

end PlanReport

/-- What a row shows. -/
def PlanRow.shown (row : PlanRow) : PlanLine :=
  { suite := row.suite.text, variants := row.variants, configurations := row.configurations,
    trials := row.trials, hours := hoursText row.secs }

/-! ## Words -/

namespace Text

/-- **WORDS PART AT A BLANK.** -/
theorem words_append_blank (front rest : List Char) :
    words (front ++ ' ' :: rest) = words front ++ words rest := by
  rw [words, List.splitOn_append_cons_self, List.filter_append]
  rfl

theorem words_blank (line : List Char) : words (' ' :: line) = words line :=
  words_append_blank [] line

/-- Blanks in front of a line are in no word. -/
theorem words_blanks_append (n : Nat) (line : List Char) :
    words (List.replicate n ' ' ++ line) = words line := by
  induction n with
  | zero => rfl
  | succ n ih => rw [List.replicate_succ, List.cons_append, words_blank, ih]

/-- Nor are blanks behind it. -/
theorem words_append_blanks (line : List Char) (n : Nat) :
    words (line ++ List.replicate n ' ') = words line := by
  cases n with
  | zero => rw [List.replicate_zero, List.append_nil]
  | succ n =>
      have hblanks := words_blanks_append n []
      rw [List.append_nil] at hblanks
      rw [List.replicate_succ, words_append_blank, hblanks]
      exact List.append_nil _

/-- A text that stands as one word in one line. -/
structure IsWord (text : String) : Prop where
  ne_nil   : text.toList ≠ []
  unbroken : ∀ c, c = ' ' ∨ c = '\n' → c ∉ text.toList

namespace IsWord

variable {text : String}

theorem words_eq (h : IsWord text) : words text.toList = [text.toList] := by
  rw [words, List.splitOn_eq_singleton (h.unbroken _ (.inl rfl))]
  exact List.filter_cons_of_pos (by simpa using h.ne_nil)

theorem words_padLeft (h : IsWord text) (width : Nat) :
    words (padLeft width text).toList = [text.toList] := by
  rw [padLeft, String.toList_append, String.toList_ofList, words_blanks_append, h.words_eq]

theorem words_padRight (h : IsWord text) (width : Nat) :
    words (padRight width text).toList = [text.toList] := by
  rw [padRight, String.toList_append, String.toList_ofList, words_append_blanks, h.words_eq]

theorem lineFeed_not_mem_padLeft (h : IsWord text) (width : Nat) :
    '\n' ∉ (padLeft width text).toList := by
  rw [padLeft, String.toList_append, String.toList_ofList, List.mem_append, List.mem_replicate]
  rintro (⟨-, hblank⟩ | hmem)
  · exact absurd hblank (by decide)
  · exact h.unbroken _ (.inr rfl) hmem

theorem lineFeed_not_mem_padRight (h : IsWord text) (width : Nat) :
    '\n' ∉ (padRight width text).toList := by
  rw [padRight, String.toList_append, String.toList_ofList, List.mem_append, List.mem_replicate]
  rintro (hmem | ⟨-, hblank⟩)
  · exact h.unbroken _ (.inr rfl) hmem
  · exact absurd hblank (by decide)

end IsWord

/-! ## What stands in the columns -/

/-- A numeral is a word. -/
theorem isWord_toString (n : Nat) : IsWord (toString n) where
  ne_nil := by
    rw [toList_toString]
    exact decimal_ne_nil n
  unbroken := by
    intro c hc
    rw [toList_toString]
    refine not_mem_decimal ?_
    rcases hc with rfl | rfl
    · rfl
    · rfl

theorem read_toString (n : Nat) : value? 10 (toString n).toList = some n := by
  rw [toList_toString, value?_decimal]

end Text

/-- A name is a word. -/
theorem Name.isWord {role : Role} (name : Name role) : Text.IsWord name.text where
  ne_nil := fun hnil => name.valid.nonempty (String.toList_eq_nil_iff.mp hnil)
  unbroken := by
    intro c hc
    refine name.not_mem_text ?_
    rcases hc with rfl | rfl
    · decide
    · decide

/-- A number with decimals consists of digits and a point. -/
theorem Magnitude.isWord_fixed (x : Magnitude) : Text.IsWord (x.fixed 2) := by
  obtain ⟨whole, decimals, htext, hdigits, -, -⟩ := x.exists_fixed
  refine ⟨?_, ?_⟩
  · rw [htext]
    exact List.append_ne_nil_of_right_ne_nil _ (List.cons_ne_nil _ _)
  · intro c hc hmem
    rw [htext, List.mem_append, List.mem_cons] at hmem
    have hplain : c.isDigit = false ∧ c ≠ '.' := by
      rcases hc with rfl | rfl
      · decide
      · decide
    rcases hmem with hwhole | hpoint | hdecimals
    · exact nomatch (hdigits c (List.mem_append_left _ hwhole)).symm.trans hplain.1
    · exact hplain.2 hpoint
    · exact nomatch (hdigits c (List.mem_append_right _ hdecimals)).symm.trans hplain.1

theorem isWord_hoursText (secs : Nat) : Text.IsWord (hoursText secs) := by
  rw [hoursText]
  split
  · exact Magnitude.isWord_fixed _
  · refine ⟨by decide, ?_⟩
    rintro c (rfl | rfl)
    · decide
    · decide

/-! ## Lines -/

/-- A line that is not empty, with its words. -/
structure Text.IsLine (line : List Char) (words : List (List Char)) : Prop where
  unbroken : '\n' ∉ line
  ne_nil   : line ≠ []
  words_eq : Text.words line = words

/-- Five words make a line of the table, however wide its columns are. -/
theorem PlanRow.exists_line {suite variants configurations trials hours : String}
    (hsuite : Text.IsWord suite) (hvariants : Text.IsWord variants)
    (hconfigurations : Text.IsWord configurations) (htrials : Text.IsWord trials)
    (hhours : Text.IsWord hours) :
    ∃ line, (PlanRow.line suite variants configurations trials hours).toList = line ++ ['\n'] ∧
      Text.IsLine line [suite.toList, variants.toList, configurations.toList, trials.toList,
        hours.toList] := by
  let line := (Text.padRight 20 suite).toList ++ ' ' :: ((Text.padLeft 9 variants).toList
    ++ ' ' :: ((Text.padLeft 15 configurations).toList ++ ' ' :: ((Text.padLeft 8 trials).toList
      ++ ' ' :: (Text.padLeft 10 hours).toList)))
  have hblank : " ".toList = [' '] := rfl
  have hfeed : "\n".toList = ['\n'] := rfl
  refine ⟨line, ?_, ?_, ?_, ?_⟩
  · simp only [PlanRow.line, line, String.toList_append, hblank, hfeed, List.append_assoc,
      List.cons_append, List.nil_append]
  · simp only [line, List.mem_append, List.mem_cons, not_or]
    exact ⟨hsuite.lineFeed_not_mem_padRight 20, by decide,
      hvariants.lineFeed_not_mem_padLeft 9, by decide,
      hconfigurations.lineFeed_not_mem_padLeft 15, by decide,
      htrials.lineFeed_not_mem_padLeft 8, by decide, hhours.lineFeed_not_mem_padLeft 10⟩
  · exact List.append_ne_nil_of_right_ne_nil _ (List.cons_ne_nil _ _)
  · simp only [line, Text.words_append_blank, hsuite.words_padRight, hvariants.words_padLeft,
      hconfigurations.words_padLeft, htrials.words_padLeft, hhours.words_padLeft]
    rfl

/-- The titles of the columns are the words of their line. -/
theorem PlanRow.exists_titles :
    ∃ line, (PlanRow.line "SUITE" "VARIANTS" "CONFIGURATIONS" "TRIALS" "HOURS").toList
        = line ++ ['\n'] ∧
      Text.IsLine line PlanLine.titles := by
  have hword : ∀ title ∈ ["SUITE", "VARIANTS", "CONFIGURATIONS", "TRIALS", "HOURS"],
      Text.IsWord title := by
    intro title htitle
    refine ⟨?_, ?_⟩
    · revert title
      decide
    · rintro c (rfl | rfl)
      · revert title
        decide
      · revert title
        decide
  simp only [List.forall_mem_cons] at hword
  obtain ⟨hsuite, hvariants, hconfigurations, htrials, hhours, -⟩ := hword
  exact exists_line hsuite hvariants hconfigurations htrials hhours

/-- **A ROW** is one line of the table, and is read as what it shows. -/
theorem PlanLine.ofWords?_text (row : PlanRow) :
    ∃ line words, row.text.toList = line ++ ['\n'] ∧ Text.IsLine line words ∧
      ofWords? words = some row.shown := by
  obtain ⟨line, htext, hline⟩ := PlanRow.exists_line row.suite.isWord
    (Text.isWord_toString row.variants) (Text.isWord_toString row.configurations)
    (Text.isWord_toString row.trials) (isWord_hoursText row.secs)
  refine ⟨line, _, htext, hline, ?_⟩
  simp only [ofWords?, Text.read_toString, String.ofList_toList]
  rfl

/-- **A TOTAL** is one line behind an empty one, and is read as what it shows. -/
theorem PlanReport.readTotal?_text (total : PlanTotal) :
    ∃ line words, total.text.toList = '\n' :: (line ++ ['\n']) ∧ Text.IsLine line words ∧
      readTotal? words = some (total.trials, hoursText total.secs) := by
  have htrials := Text.isWord_toString total.trials
  have hhours := isWord_hoursText total.secs
  let line := "Total:".toList ++ ' ' :: ((toString total.trials).toList
    ++ ' ' :: ("trial(s), about".toList ++ ' ' :: ((hoursText total.secs).toList
      ++ ' ' :: "hour(s) at full duration".toList)))
  have hwords : Text.words line
      = "Total:".toList :: (toString total.trials).toList :: "trial(s),".toList
        :: "about".toList :: (hoursText total.secs).toList
        :: ["hour(s)".toList, "at".toList, "full".toList, "duration".toList] := by
    have hfirst : Text.words "Total:".toList = ["Total:".toList] := by decide
    have hmiddle : Text.words "trial(s), about".toList = ["trial(s),".toList, "about".toList] := by
      decide
    have hlast : Text.words "hour(s) at full duration".toList
        = ["hour(s)".toList, "at".toList, "full".toList, "duration".toList] := by
      decide
    simp only [line, Text.words_append_blank, htrials.words_eq, hhours.words_eq, hfirst, hmiddle,
      hlast, List.cons_append, List.nil_append]
  refine ⟨line, _, ?_, ⟨?_, ?_, hwords⟩, ?_⟩
  · have hfirst : "\nTotal: ".toList = '\n' :: ("Total:".toList ++ [' ']) := by decide
    have hmiddle : " trial(s), about ".toList = ' ' :: ("trial(s), about".toList ++ [' ']) := by
      decide
    have hlast : " hour(s) at full duration\n".toList
        = ' ' :: ("hour(s) at full duration".toList ++ ['\n']) := by
      decide
    simp only [PlanTotal.text, line, String.toList_append, hfirst, hmiddle, hlast,
      List.append_assoc, List.cons_append, List.nil_append]
  · simp only [line, List.mem_append, List.mem_cons, not_or]
    exact ⟨by decide, by decide, htrials.unbroken _ (.inr rfl), by decide, by decide, by decide,
      hhours.unbroken _ (.inr rfl), by decide, by decide⟩
  · exact List.append_ne_nil_of_right_ne_nil _ (List.cons_ne_nil _ _)
  · rw [readTotal?, totalWords, if_pos rfl, Text.read_toString, String.ofList_toList]
    rfl

/-! ## Lines -/

/-- A line feed ends a line. -/
theorem Text.splitOn_line {line : List Char} (hline : '\n' ∉ line) (rest : List Char) :
    (line ++ '\n' :: rest).splitOn '\n' = line :: rest.splitOn '\n' := by
  rw [List.splitOn_append_cons_self, List.splitOn_eq_singleton hline, List.singleton_append]

theorem Text.splitOn_lineFeed (rest : List Char) :
    ('\n' :: rest).splitOn '\n' = [] :: rest.splitOn '\n' := splitOn_line List.not_mem_nil rest

/-- The rows of a table are lines, and are read as what they show. -/
theorem PlanLine.exists_lines (rows : List PlanRow) :
    ∃ lines : List (List Char), [] ∉ lines ∧
      (∀ rest, ((String.join (rows.map PlanRow.text)).toList ++ rest).splitOn '\n'
        = lines ++ rest.splitOn '\n') ∧
      lines.mapM (fun line => ofWords? (Text.words line)) = some (rows.map PlanRow.shown) := by
  induction rows with
  | nil =>
      refine ⟨[], List.not_mem_nil, fun rest => ?_, rfl⟩
      rw [List.map_nil, String.join_nil]
      rfl
  | cons row rows ih =>
      obtain ⟨lines, hlines, hsplit, hread⟩ := ih
      obtain ⟨line, words, htext, hline, hwords⟩ := ofWords?_text row
      refine ⟨line :: lines, ?_, fun rest => ?_, ?_⟩
      · rw [List.mem_cons, not_or]
        exact ⟨hline.ne_nil.symm, hlines⟩
      · rw [List.map_cons, String.join_cons, String.toList_append, htext, List.append_assoc,
          List.append_assoc, List.singleton_append, Text.splitOn_line hline.unbroken, hsplit,
          List.cons_append]
      · rw [List.mapM_cons, hline.words_eq, hwords, hread]
        rfl

/-- **A PLAN IS READ BACK**: behind anything that ends in an empty line, a table and a total
    are read as what they show. -/
theorem PlanReport.read?_text (front : String) (rows : List PlanRow) (total : PlanTotal) :
    read? (front ++ "\n\n" ++ PlanRow.table rows ++ total.text)
      = some { lines := rows.map PlanRow.shown, trials := total.trials
               hours := hoursText total.secs } := by
  obtain ⟨titles, htitles, htitlesLine⟩ := PlanRow.exists_titles
  obtain ⟨lines, hlines, hsplit, hread⟩ := PlanLine.exists_lines rows
  obtain ⟨line, words, htotal, hline, hwords⟩ := readTotal?_text total
  have hlinesText : (front ++ "\n\n" ++ PlanRow.table rows ++ total.text).toList.splitOn '\n'
      = front.toList.splitOn '\n' ++ [] :: (titles :: lines ++ [] :: ([line] ++ [] :: [])) := by
    have hfeeds : "\n\n".toList = ['\n', '\n'] := rfl
    simp only [String.toList_append, PlanRow.table, htitles, hfeeds, htotal, List.append_assoc,
      List.cons_append, List.nil_append]
    rw [List.splitOn_append_cons_self, Text.splitOn_lineFeed,
      Text.splitOn_line htitlesLine.unbroken, hsplit, Text.splitOn_lineFeed,
      Text.splitOn_line hline.unbroken, List.splitOn_nil]
  have htable : [] ∉ titles :: lines := by
    rw [List.mem_cons, not_or]
    exact ⟨htitlesLine.ne_nil.symm, hlines⟩
  have htotalLine : [] ∉ [line] := fun h => hline.ne_nil (List.mem_singleton.mp h).symm
  have hparagraphs : ((front ++ "\n\n" ++ PlanRow.table rows ++ total.text).toList.splitOn
      '\n').splitOn [] = (front.toList.splitOn '\n').splitOn [] ++ [titles :: lines, [line], []] := by
    rw [hlinesText, List.splitOn_append_cons_self, List.splitOn_append_cons_self,
      List.splitOn_append_cons_self, List.splitOn_eq_singleton htable,
      List.splitOn_eq_singleton htotalLine, List.splitOn_nil]
    rfl
  rw [read?, hparagraphs, List.reverse_append]
  show (if Text.words titles = PlanLine.titles then _ else _) = _
  rw [if_pos htitlesLine.words_eq, hread, hline.words_eq, hwords]
  rfl

/-- The dimensions of a plan end in an empty line. -/
theorem Plan.exists_head (plan : Plan) : ∃ front, plan.head = front ++ "\n\n" := by
  have hfeeds : "s\n\n" = "s" ++ "\n\n" := by decide
  have hlast : ∀ text : String, text ++ "s\n\n" = text ++ "s" ++ "\n\n" := by
    intro text
    rw [hfeeds, String.append_assoc]
  exact ⟨_, hlast _⟩

/-- So whatever has been written before a plan, its table and its total are read back. -/
theorem PlanReport.read?_plan (before : String) (plan : Plan) (rows : List PlanRow)
    (total : PlanTotal) :
    read? (before ++ (plan.head ++ PlanRow.table rows) ++ total.text)
      = some { lines := rows.map PlanRow.shown, trials := total.trials
               hours := hoursText total.secs } := by
  obtain ⟨front, hhead⟩ := plan.exists_head
  rw [hhead, ← String.append_assoc, ← String.append_assoc]
  exact read?_text (before ++ front) rows total

end BenchSweep
