import BenchSweep.Proofs.Text.Line
import BenchSweep.Throughput

/-! # Which figure is found

    Captured output is searched from its end, so the last line that contains the marker
    decides, with whatever stands before and behind it, and however lines end
    (`last_marked_line_decides`).  In that line the figure is the first word behind the
    marker's first occurrence (`find?_word`), and a natural number below `2 ^ 64` is found
    as it was written (`integer_figures_read_back`): all its digits are read, and no
    binary64 value comes in between. -/

namespace BenchSweep.Throughput

open Text

variable {marker output : List Char}

/-! ## The last marked line -/

/-- Lines without the marker are passed over from the end, too. -/
theorem find?_reverse_eq_none {ls : List (List Char)} (h : ∀ l ∈ ls, contains marker l = false) :
    ls.reverse.find? (contains marker) = none := by
  rw [List.find?_eq_none]
  intro l hl hcontains
  exact nomatch (h l (List.mem_reverse.mp hl)).symm.trans hcontains

/-- **THE LAST LINE** with the marker is the one in which the figure is looked for. -/
theorem find?_of_lines {earlier later : List (List Char)} {line : List Char}
    (hlines : lines output = earlier ++ line :: later) (hmarked : contains marker line = true)
    (hlater : ∀ l ∈ later, contains marker l = false) :
    find? marker output = ofLine? marker line := by
  have hfound : (lines output).reverse.find? (contains marker) = some line := by
    rw [hlines, List.reverse_append, List.reverse_cons, List.append_assoc, List.find?_append,
      find?_reverse_eq_none hlater, Option.none_or]
    exact List.find?_cons_of_pos hmarked
  show ((lines output).reverse.find? (contains marker)).bind (ofLine? marker) = _
  rw [hfound]
  rfl

/-- Without a marked line there is no figure. -/
theorem find?_eq_none (h : ∀ l ∈ lines output, contains marker l = false) :
    find? marker output = none := by
  show ((lines output).reverse.find? (contains marker)).bind (ofLine? marker) = none
  rw [find?_reverse_eq_none h]
  rfl

/-! ## Carriage returns -/

/-- A carriage return at the end of a line is no part of the marker and no part of the
    word behind it. -/
theorem ofLine?_returned (hmarker : '\r' ∉ marker) {line line' : List Char}
    (h : Returned line line') :
    contains marker line' = contains marker line ∧ ofLine? marker line' = ofLine? marker line := by
  rcases h with rfl | rfl
  · exact ⟨rfl, rfl⟩
  · have hafter := after?_append_singleton hmarker line
    constructor
    · rw [contains, contains, hafter, Option.isSome_map]
    · show (after? marker (line ++ ['\r'])).bind (fun rest => (firstWord? rest).bind ofWord?) = _
      rw [hafter, Option.bind_map]
      show _ = (after? marker line).bind (fun rest => (firstWord? rest).bind ofWord?)
      congr 1
      funext rest
      show (firstWord? (rest ++ ['\r'])).bind ofWord? = _
      rw [firstWord?_append_blank (by decide)]

/-- **LINES UP TO CARRIAGE RETURNS** have the same figure. -/
theorem find?_returned (hmarker : '\r' ∉ marker) {output' : List Char}
    (h : List.Forall₂ Returned (lines output) (lines output')) :
    find? marker output' = find? marker output := by
  suffices hfirst : ∀ {ls ls' : List (List Char)}, List.Forall₂ Returned ls ls' →
      (ls'.find? (contains marker)).bind (ofLine? marker)
        = (ls.find? (contains marker)).bind (ofLine? marker) from
    hfirst (List.forall₂_reverse_iff.mpr h)
  intro ls ls' h
  induction h with
  | nil => rfl
  | @cons line line' ls ls' hline _ ih =>
      obtain ⟨hcontains, hfigure⟩ := ofLine?_returned hmarker hline
      rw [List.find?_cons, List.find?_cons, hcontains]
      cases contains marker line with
      | true => exact hfigure
      | false => exact ih

/-- One line alone is searched like any line, unless it is empty, and then neither has a
    figure. -/
theorem find?_line {line : List Char} (hline : '\n' ∉ line)
    (hmarked : contains marker line = true) : find? marker line = ofLine? marker line := by
  by_cases hne : line = []
  · subst hne
    obtain rfl : marker = [] := List.infix_nil.mp (contains_iff.mp hmarked)
    rfl
  · have hlines : lines line = [] ++ line :: [] := lines_of_not_mem hline hne
    exact find?_of_lines hlines hmarked nofun

/-- **THE LAST MARKED LINE** of an output has the figure that it has alone. -/
theorem find?_last (hmarker : '\r' ∉ marker) (p q : List Char) {line : List Char}
    (hline : '\n' ∉ line) (hmarked : contains marker line = true)
    (hlater : ∀ l ∈ lines q, contains marker l = false) :
    find? marker (p ++ '\n' :: (line ++ '\n' :: q)) = find? marker line := by
  have hlines : lines (p ++ '\n' :: (line ++ '\n' :: q))
      = lines (p ++ ['\n']) ++ closeLine line.reverse :: lines q := by
    rw [lines_append, lines_append_lineFeed hline]
  obtain ⟨hcontains, hfigure⟩ := ofLine?_returned hmarker (returned_closeLine_reverse line)
  rw [find?_of_lines hlines (hcontains.symm.trans hmarked) hlater, find?_line hline hmarked,
    hfigure]

/-- **THE LAST MARKED LINE DECIDES.**  For a marker without carriage return: a line with
    the marker, behind any text and before a text without a marked line, gives the figure
    that it gives alone; an output without a marked line gives none; and carriage returns
    put before any of the line feeds change nothing. -/
theorem last_marked_line_decides (marker : String) (hmarker : '\r' ∉ marker.toList) :
    (∀ p line q : String, '\n' ∉ line.toList → marker.toList <:+: line.toList →
      (∀ l ∈ lines q.toList, ¬ marker.toList <:+: l) →
      extract? (p ++ "\n" ++ line ++ "\n" ++ q) marker = extract? line marker) ∧
    (∀ output : String, (∀ l ∈ lines output.toList, ¬ marker.toList <:+: l) →
      extract? output marker = none) ∧
    ∀ output output' : String, Widened output.toList output'.toList →
      extract? output' marker = extract? output marker := by
  refine ⟨?_, ?_, ?_⟩
  · intro p line q hline hmarked hlater
    have htext : (p ++ "\n" ++ line ++ "\n" ++ q).toList
        = p.toList ++ '\n' :: (line.toList ++ '\n' :: q.toList) := by
      simp [String.toList_append]
    rw [extract?, extract?, htext,
      find?_last hmarker _ _ hline (contains_iff.mpr hmarked)
        fun l hl => contains_eq_false_iff.mpr (hlater l hl)]
  · intro output hnone
    rw [extract?, find?_eq_none fun l hl => contains_eq_false_iff.mpr (hnone l hl)]
    rfl
  · intro output output' hwidened
    rw [extract?, extract?, find?_returned hmarker hwidened.lines]

/-- A marked line between an earlier one and two others, with a carriage return at its
    end; and one more such return at the end of an empty line. -/
theorem last_marked_line_of_three :
    '\r' ∉ ":".toList ∧
      extract? ("warm: 10" ++ "\n" ++ "ops: 20\r" ++ "\n" ++ "saved\nresults") ":" = some 20 ∧
      extract? "saved\nresults" ":" = none ∧
      extract? ":7\n\r\n" ":" = extract? ":7\n\n" ":" := by
  have hmarker : '\r' ∉ ":".toList := by decide
  obtain ⟨hlast, hnone, hsame⟩ := last_marked_line_decides ":" hmarker
  have hfigure : extract? "ops: 20\r" ":" = some 20 := by decide +kernel
  have hwidened : Widened ":7\n\n".toList ":7\n\r\n".toList :=
    .keep ':' (.keep '7' (.keep '\n' (.widen .nil)))
  exact ⟨hmarker, (hlast _ _ _ (by decide) (by decide) (by decide)).trans hfigure,
    hnone _ (by decide), hsame _ _ hwidened⟩

/-! ## Words behind markers

    What is behind the marker's first occurrence decides, and of that the first word. -/

/-- A numeral below `2 ^ 64` is read digit by digit. -/
theorem ofWord?_decimal {n : Nat} (hn : n ≤ largest) : ofWord? (decimal n) = some n := by
  rw [ofWord?, numeralBelow?_decimal (Nat.lt_succ_of_le hn)]
  rfl

/-- The figure in a line is that of the word behind the first marker, be there blanks before
    it and anything behind it that begins with one. -/
theorem ofLine?_word {front gap word rest : List Char}
    (hfirst : ∀ k < front.length, ¬ marker <+: (front ++ marker).drop k)
    (hgap : ∀ c ∈ gap, isBlank c = true) (hne : word ≠ [])
    (hvisible : ∀ c ∈ word, isBlank c = false) (hrest : ∀ c ∈ rest.head?, isBlank c = true) :
    contains marker (front ++ marker ++ (gap ++ word) ++ rest) = true ∧
      ofLine? marker (front ++ marker ++ (gap ++ word) ++ rest) = ofWord? word := by
  have hafter : after? marker (front ++ marker ++ (gap ++ word) ++ rest)
      = some (gap ++ word ++ rest) := by
    rw [List.append_assoc (front ++ marker)]
    exact after?_append_of_first hfirst _
  constructor
  · rw [contains, hafter]
    rfl
  · show (after? marker _).bind (fun rest => (firstWord? rest).bind ofWord?) = _
    rw [hafter]
    show (firstWord? (gap ++ word ++ rest)).bind ofWord? = _
    rw [firstWord?_append hgap hne hvisible hrest]
    rfl

/-- **THE WORD** behind the first marker decides, in a line with a line feed behind it or
    without. -/
theorem find?_word {front gap word rest : List Char}
    (hline : '\n' ∉ front ++ marker ++ (gap ++ word) ++ rest)
    (hfirst : ∀ k < front.length, ¬ marker <+: (front ++ marker).drop k)
    (hgap : ∀ c ∈ gap, isBlank c = true) (hne : word ≠ [])
    (hvisible : ∀ c ∈ word, isBlank c = false) (hrest : ∀ c ∈ rest.head?, isBlank c = true) :
    ∀ ending ∈ [[], ['\n']],
      find? marker (front ++ marker ++ (gap ++ word) ++ rest ++ ending) = ofWord? word := by
  rw [List.forall_mem_cons, List.forall_mem_singleton]
  constructor
  · obtain ⟨hmarked, hfigure⟩ := ofLine?_word hfirst hgap hne hvisible hrest
    rw [List.append_nil, find?_line hline hmarked, hfigure]
  · -- the line end may take a carriage return, but only from behind the word
    have hend : '\r' ∉ (front ++ marker ++ (gap ++ word)).getLast? := by
      rw [← List.append_assoc, List.getLast?_append_of_ne_nil _ hne]
      intro hlast
      exact nomatch (hvisible '\r' (List.mem_of_mem_getLast? hlast)).symm.trans
        (show isBlank '\r' = true by decide)
    obtain ⟨rest', hprefix, hclosed⟩ := closeLine_append hend rest
    have hrest' : ∀ c ∈ rest'.head?, isBlank c = true := by
      intro c hc
      obtain ⟨r, rfl⟩ := List.head?_eq_some_iff.mp hc
      obtain ⟨r', rfl⟩ := hprefix
      exact hrest c rfl
    have hlines : lines (front ++ marker ++ (gap ++ word) ++ rest ++ ['\n'])
        = [] ++ (front ++ marker ++ (gap ++ word) ++ rest') :: [] := by
      rw [lines_append_lineFeed hline, hclosed]
      rfl
    obtain ⟨hmarked, hfigure⟩ := ofLine?_word hfirst hgap hne hvisible hrest'
    rw [find?_of_lines hlines hmarked nofun, hfigure]

/-- **THE WORD** behind a marker and a space decides, if the output is nothing more than
    these or ends with a line feed. -/
theorem extract?_word {marker word : String} (hmarker : '\n' ∉ marker.toList)
    (hne : word.toList ≠ []) (hvisible : ∀ c ∈ word.toList, isBlank c = false) :
    ∀ ending ∈ ["", "\n"], extract? (marker ++ " " ++ word ++ ending) marker
      = (ofWord? word.toList).map UInt64.ofNat := by
  have hgap : ∀ c ∈ [' '], isBlank c = true := by
    intro c hc
    rw [List.mem_singleton.mp hc]
    decide
  have hline : '\n' ∉ [] ++ marker.toList ++ ([' '] ++ word.toList) ++ [] := by
    have hfeed : '\n' ∉ word.toList := fun h => Bool.false_ne_true (hvisible _ h).symm
    rw [List.nil_append, List.append_nil, List.mem_append, List.mem_append, not_or, not_or]
    exact ⟨hmarker, by decide, hfeed⟩
  have hend : ∀ c ∈ ([] : List Char).head?, isBlank c = true := by
    intro c hc
    cases hc
  have hfound := find?_word hline (fun _ hk => absurd hk (Nat.not_lt_zero _)) hgap hne hvisible
    hend
  have hlist : ∀ ending : String, (marker ++ " " ++ word ++ ending).toList
      = [] ++ marker.toList ++ ([' '] ++ word.toList) ++ [] ++ ending.toList := by
    intro ending
    simp [String.toList_append]
  rw [List.forall_mem_cons, List.forall_mem_singleton] at hfound ⊢
  constructor
  · rw [extract?, hlist]
    exact congrArg _ hfound.1
  · rw [extract?, hlist]
    exact congrArg _ hfound.2

/-- **AN INTEGER FIGURE** is found as it was written. -/
theorem find?_decimal {front gap rest : List Char} {n : Nat}
    (hline : '\n' ∉ front ++ marker ++ (gap ++ decimal n) ++ rest)
    (hfirst : ∀ k < front.length, ¬ marker <+: (front ++ marker).drop k)
    (hgap : ∀ c ∈ gap, isBlank c = true) (hn : n ≤ largest)
    (hrest : ∀ c ∈ rest.head?, isBlank c = true) :
    ∀ ending ∈ [[], ['\n']],
      find? marker (front ++ marker ++ (gap ++ decimal n) ++ rest ++ ending) = some n := by
  intro ending hending
  have hvisible : ∀ c ∈ decimal n, isBlank c = false := fun c hc =>
    isBlank_of_isDigit (isDigit_of_mem_decimal hc)
  rw [find?_word hline hfirst hgap (decimal_ne_nil n) hvisible hrest ending hending]
  exact ofWord?_decimal hn

/-- **INTEGER FIGURES** are read back.  In a line with a marker that occurs first behind
    `front`, then blanks, the digits of a number of 64 bits and nothing more or something
    that begins with white space, that number is found, with a line feed behind the line
    or without. -/
theorem integer_figures_read_back (n : UInt64) (front marker gap rest : String)
    (hline : '\n' ∉ front.toList ∧ '\n' ∉ marker.toList ∧ '\n' ∉ rest.toList)
    (hfirst : ∀ k < front.toList.length,
      ¬ marker.toList <+: (front.toList ++ marker.toList).drop k)
    (hgap : ∀ c ∈ gap.toList, c = ' ' ∨ c = '\t')
    (hrest : ∀ c ∈ rest.toList.head?, isBlank c = true) :
    ∀ ending ∈ ["", "\n"],
      extract? (front ++ marker ++ gap ++ toString n.toNat ++ rest ++ ending) marker = some n := by
  have hblanks : ∀ c ∈ gap.toList, isBlank c = true := by
    intro c hc
    rcases hgap c hc with rfl | rfl
    · decide
    · decide
  have hwhole : '\n' ∉ front.toList ++ marker.toList ++ (gap.toList ++ decimal n.toNat)
      ++ rest.toList := by
    obtain ⟨hfront, hmarker, hend⟩ := hline
    have hnone : '\n' ∉ gap.toList := by
      intro h
      rcases hgap _ h with h | h
      · exact absurd h (by decide)
      · exact absurd h (by decide)
    have hdigits : '\n' ∉ decimal n.toNat := not_mem_decimal (by decide)
    simp only [List.mem_append, not_or]
    exact ⟨⟨⟨hfront, hmarker⟩, hnone, hdigits⟩, hend⟩
  have hfound := find?_decimal hwhole hfirst hblanks (Nat.le_sub_one_of_lt n.toNat_lt) hrest
  have htext : ∀ ending : String,
      (front ++ marker ++ gap ++ toString n.toNat ++ rest ++ ending).toList
        = front.toList ++ marker.toList ++ (gap.toList ++ decimal n.toNat) ++ rest.toList
          ++ ending.toList := by
    intro ending
    simp only [String.toList_append, toList_toString, List.append_assoc]
  have hfigure : ∀ ending : String, ending.toList ∈ [[], ['\n']] →
      extract? (front ++ marker ++ gap ++ toString n.toNat ++ rest ++ ending) marker = some n := by
    intro ending hending
    rw [extract?, htext, hfound _ hending, Option.map_some, UInt64.ofNat_toNat]
  rw [List.forall_mem_cons, List.forall_mem_singleton]
  exact ⟨hfigure "" List.mem_cons_self, hfigure "\n" (List.mem_cons_of_mem _ List.mem_cons_self)⟩

/-- The largest figure, behind a marker that begins like what is before it, and before a
    carriage return. -/
theorem integer_figure_largest :
    let front := "Ops/"
    let marker := "Ops/s"
    let line := front ++ marker ++ " \t" ++ toString (18446744073709551615 : UInt64).toNat ++ "\r"
    (∀ k < front.toList.length, ¬ marker.toList <+: (front.toList ++ marker.toList).drop k) ∧
      extract? (line ++ "") marker = some 18446744073709551615 ∧
      extract? (line ++ "\n") marker = some 18446744073709551615 := by
  intro front marker line
  have hfirst : ∀ k < front.toList.length,
      ¬ marker.toList <+: (front.toList ++ marker.toList).drop k := by decide
  have hgap : ∀ c ∈ " \t".toList, c = ' ' ∨ c = '\t' := by simp
  have hrest : ∀ c ∈ "\r".toList.head?, isBlank c = true := by
    intro c hc
    obtain rfl : '\r' = c := Option.some.inj hc
    decide
  have hfound := integer_figures_read_back 18446744073709551615 front marker " \t" "\r"
    (by decide) hfirst hgap hrest
  exact ⟨hfirst, hfound "" List.mem_cons_self,
    hfound "\n" (List.mem_cons_of_mem _ List.mem_cons_self)⟩

end BenchSweep.Throughput
