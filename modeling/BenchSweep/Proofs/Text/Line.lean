import BenchSweep.Proofs.Text.Numeral
import BenchSweep.Text.Blank
import BenchSweep.Text.Line
import Mathlib.Data.List.Forall2
import Mathlib.Data.List.Infix

/-! # Lines, occurrences and words

    What is found in a text when it is taken line by line, and in a line when it is cut
    behind a marker:

    * a line feed ends a line and begins the rest of the text (`lines_append`), so that
      lines are put together from texts without line feeds (`lines_append_lineFeed`,
      `lines_of_not_mem`), and are such texts (`lineFeed_not_mem_of_mem_lines`);
    * carriage returns before line feeds make no other lines, except for one at their
      ends (`Widened.lines`);
    * a marker is found exactly if it is in the text (`contains_iff`), at its first
      occurrence (`after?_append_of_first`);
    * blanks before and behind a word are no part of it (`firstWord?_append`). -/

namespace BenchSweep.Text

/-! ## Lines -/

/-- Up to a line feed the text belongs to the current line. -/
theorem linesAfter_append {l : List Char} (hl : '\n' ∉ l) (back r : List Char) :
    linesAfter back (l ++ r) = linesAfter (l.reverse ++ back) r := by
  induction l generalizing back with
  | nil => rfl
  | cons c l ih =>
      have hc : c ≠ '\n' := fun h => hl (h ▸ List.mem_cons_self)
      have hrest : '\n' ∉ l := fun h => hl (List.mem_cons_of_mem _ h)
      rw [List.cons_append, linesAfter.eq_3 back c (l ++ r) hc, ih hrest, List.reverse_cons,
        List.append_assoc]
      rfl

/-- **A FIRST LINE** and those of the text behind its line feed. -/
theorem lines_append_lineFeed {l : List Char} (hl : '\n' ∉ l) (r : List Char) :
    lines (l ++ '\n' :: r) = closeLine l.reverse :: lines r := by
  rw [lines, linesAfter_append hl, List.append_nil]
  rfl

/-- A text without line feeds is one line, unless it is empty. -/
theorem lines_of_not_mem {l : List Char} (hl : '\n' ∉ l) (hne : l ≠ []) : lines l = [l] := by
  have hlines := linesAfter_append hl [] []
  rw [List.append_nil, List.append_nil] at hlines
  rw [lines, hlines, linesAfter, List.isEmpty_reverse, List.reverse_reverse]
  exact if_neg (fun hempty => hne (List.isEmpty_iff.mp hempty))

/-- **A LINE FEED** parts the lines before it from those behind it. -/
theorem lines_append (p r : List Char) :
    lines (p ++ '\n' :: r) = lines (p ++ ['\n']) ++ lines r := by
  suffices hafter : ∀ back,
      linesAfter back (p ++ '\n' :: r) = linesAfter back (p ++ ['\n']) ++ lines r from hafter []
  induction p with
  | nil => intro back; rfl
  | cons c p ih =>
      intro back
      by_cases hc : c = '\n'
      · subst hc
        show closeLine back :: linesAfter [] (p ++ '\n' :: r) = _
        rw [ih []]
        rfl
      · rw [List.cons_append, List.cons_append, linesAfter.eq_3 back c _ hc,
          linesAfter.eq_3 back c _ hc]
        exact ih (c :: back)

/-! ## Carriage returns at the ends of lines -/

/-- The same line, or with one carriage return more at its end. -/
def Returned (line line' : List Char) : Prop :=
  line' = line ∨ line' = line ++ ['\r']

/-- What a line end takes from a line is one carriage return at most. -/
theorem returned_closeLine (back : List Char) : Returned (closeLine back) back.reverse := by
  unfold closeLine
  split
  · next r => exact .inr List.reverse_cons
  · exact .inl rfl

theorem returned_closeLine_reverse (line : List Char) : Returned (closeLine line.reverse) line := by
  have hreturned := returned_closeLine line.reverse
  rwa [List.reverse_reverse] at hreturned

/-- **A LINE** holds no line feed. -/
theorem lineFeed_not_mem_of_mem_lines {text l : List Char} (hl : l ∈ lines text) : '\n' ∉ l := by
  suffices hafter : ∀ back, '\n' ∉ back → l ∈ linesAfter back text → '\n' ∉ l from
    hafter [] List.not_mem_nil hl
  clear hl
  induction text with
  | nil =>
      intro back hback hl
      rw [linesAfter] at hl
      split at hl
      · exact absurd hl List.not_mem_nil
      · rw [List.mem_singleton.mp hl, List.mem_reverse]
        exact hback
  | cons c text ih =>
      intro back hback hl
      by_cases hc : c = '\n'
      · subst hc
        rcases List.mem_cons.mp hl with rfl | hl
        · intro hfeed
          rcases returned_closeLine back with hsame | hcut
          · exact hback (List.mem_reverse.mp (hsame ▸ hfeed))
          · exact hback (List.mem_reverse.mp (hcut ▸ List.mem_append_left _ hfeed))
        · exact ih [] List.not_mem_nil hl
      · rw [linesAfter.eq_3 back c text hc] at hl
        refine ih (c :: back) ?_ hl
        rw [List.mem_cons, not_or]
        exact ⟨Ne.symm hc, hback⟩

/-- A line end takes nothing from the front of a line that does not end in a carriage
    return. -/
theorem closeLine_append {text : List Char} (htext : '\r' ∉ text.getLast?) (rest : List Char) :
    ∃ rest', rest' <+: rest ∧ closeLine (text ++ rest).reverse = text ++ rest' := by
  rcases returned_closeLine_reverse (text ++ rest) with hsame | hcut
  · exact ⟨rest, List.prefix_refl rest, hsame.symm⟩
  · rcases List.eq_nil_or_concat' rest with rfl | ⟨r, c, rfl⟩
    · rw [List.append_nil] at hcut
      exact absurd (hcut ▸ List.getLast?_concat) htext
    · have hfront := List.append_inj_left' ((List.append_assoc text r [c]).trans hcut) rfl
      exact ⟨r, List.prefix_append r [c], hfront.symm⟩

/-- A text with **WIDER LINE ENDS**: carriage returns have been put before some of its
    line feeds. -/
inductive Widened : List Char → List Char → Prop where
  | nil : Widened [] []
  | keep (c : Char) {s s' : List Char} (h : Widened s s') : Widened (c :: s) (c :: s')
  | widen {s s' : List Char} (h : Widened s s') : Widened ('\n' :: s) ('\r' :: '\n' :: s')

/-- **WIDER LINE ENDS** leave the lines as they are, up to a carriage return. -/
theorem Widened.lines {s s' : List Char} (h : Widened s s') :
    List.Forall₂ Returned (lines s) (Text.lines s') := by
  have hself : ∀ ls : List (List Char), List.Forall₂ Returned ls ls := by
    intro ls
    rw [List.forall₂_same]
    intro l _
    exact .inl rfl
  suffices hafter : ∀ back, List.Forall₂ Returned (linesAfter back s) (linesAfter back s') from
    hafter []
  induction h with
  | nil => exact fun back => hself _
  | @keep c s s' _ ih =>
      intro back
      by_cases hc : c = '\n'
      · subst hc
        exact .cons (.inl rfl) (ih [])
      · rw [linesAfter.eq_3 back c s hc, linesAfter.eq_3 back c s' hc]
        exact ih (c :: back)
  | @widen s s' _ ih =>
      intro back
      -- the new carriage return ends the line instead of one that was there already
      exact .cons (returned_closeLine back) (ih [])

/-! ## Occurrences -/

/-- What is behind a marker with which the text begins. -/
theorem after?_cons_of_pos {needle r : List Char} {c : Char} (h : needle <+: c :: r) :
    after? needle (c :: r) = some ((c :: r).drop needle.length) := by
  rw [after?, if_pos (List.isPrefixOf_iff_prefix.mpr h)]

/-- A marker with which the text does not begin is looked for behind its first character. -/
theorem after?_cons_of_neg {needle r : List Char} {c : Char} (h : ¬ needle <+: c :: r) :
    after? needle (c :: r) = after? needle r := by
  rw [after?, if_neg (fun hprefix => h (List.isPrefixOf_iff_prefix.mp hprefix))]

/-- **A MARKER** is contained in a text exactly if it is a part of it. -/
theorem contains_iff {needle text : List Char} :
    contains needle text = true ↔ needle <:+: text := by
  induction text with
  | nil =>
      rw [List.infix_nil, contains, after?]
      cases needle with
      | nil => exact ⟨fun _ => rfl, fun _ => rfl⟩
      | cons c r => exact ⟨nofun, nofun⟩
  | cons c r ih =>
      rw [List.infix_cons_iff, ← ih]
      by_cases hprefix : needle <+: c :: r
      · rw [contains, after?_cons_of_pos hprefix]
        exact ⟨fun _ => .inl hprefix, fun _ => rfl⟩
      · rw [contains, after?_cons_of_neg hprefix]
        exact ⟨.inr, fun h => h.resolve_left hprefix⟩

theorem contains_eq_false_iff {needle text : List Char} :
    contains needle text = false ↔ ¬ needle <:+: text := by
  rw [← contains_iff, Bool.not_eq_true]

/-- **THE FIRST OCCURRENCE** decides: what is behind it is behind the marker, if the
    marker does not begin at any place before it. -/
theorem after?_append_of_first {front needle : List Char}
    (hfirst : ∀ k < front.length, ¬ needle <+: (front ++ needle).drop k) (rest : List Char) :
    after? needle (front ++ needle ++ rest) = some rest := by
  induction front with
  | nil =>
      rw [List.nil_append]
      cases htext : needle ++ rest with
      | nil =>
          obtain ⟨rfl, rfl⟩ := List.append_eq_nil_iff.mp htext
          rfl
      | cons c r =>
          have hprefix : needle <+: c :: r := htext ▸ List.prefix_append needle rest
          rw [after?_cons_of_pos hprefix, ← htext, List.drop_left]
  | cons c front ih =>
      have hhere : ¬ needle <+: c :: (front ++ needle ++ rest) := by
        intro hprefix
        -- the marker fits in before the rest, which it therefore does not reach into
        have hlength : needle.length ≤ (c :: (front ++ needle)).length := by
          rw [List.length_cons, List.length_append]
          omega
        exact hfirst 0 (Nat.zero_lt_succ _)
          (List.prefix_of_prefix_length_le hprefix (List.prefix_append _ rest) hlength)
      rw [List.cons_append, List.cons_append, after?_cons_of_neg hhere]
      refine ih ?_
      intro k hk
      exact hfirst (k + 1) (Nat.succ_lt_succ hk)

/-- What is behind a marker goes on to the end of the text, whatever character is put
    there that the marker does not have. -/
theorem after?_append_singleton {needle : List Char} {c : Char} (hc : c ∉ needle)
    (text : List Char) : after? needle (text ++ [c]) = (after? needle text).map (· ++ [c]) := by
  induction text with
  | nil =>
      cases needle with
      | nil => rfl
      | cons d r =>
          have hprefix : ¬ d :: r <+: [c] := by
            intro h
            exact hc (List.eq_of_mem_singleton (h.subset List.mem_cons_self) ▸ List.mem_cons_self)
          rw [List.nil_append, after?_cons_of_neg hprefix]
          rfl
  | cons d text ih =>
      have hiff : needle <+: d :: (text ++ [c]) ↔ needle <+: d :: text := by
        constructor
        · intro h
          rcases List.prefix_concat_iff.mp (show needle <+: (d :: text) ++ [c] from h) with heq | h
          · exact absurd (heq ▸ List.mem_append_right _ List.mem_cons_self) hc
          · exact h
        · intro h
          exact h.trans (List.prefix_append (d :: text) [c])
      rw [List.cons_append]
      by_cases hprefix : needle <+: d :: text
      · rw [after?_cons_of_pos (hiff.mpr hprefix), after?_cons_of_pos hprefix,
          ← List.cons_append, List.drop_append_of_le_length hprefix.length_le]
        rfl
      · rw [after?_cons_of_neg (fun h => hprefix (hiff.mp h)),
          after?_cons_of_neg hprefix]
        exact ih

/-! ## Words -/

/-- Digits are visible. -/
theorem isBlank_of_isDigit {c : Char} (hc : c.isDigit = true) : isBlank c = false := by
  obtain ⟨hzero, hnine⟩ := (isDigit_iff c).mp hc
  have hlow : 48 ≤ c.toNat := UInt32.le_iff_toNat_le.mp hzero
  have hhigh : c.toNat ≤ 57 := UInt32.le_iff_toNat_le.mp hnine
  rw [isBlank, List.any_eq_false]
  intro r hr
  have hapart : ∀ r ∈ blankRanges, r.2 < 48 ∨ 57 < r.1 := by decide
  rcases hapart r hr with hbelow | habove
  · simp only [Bool.and_eq_true, decide_eq_true_iff, not_and]
    omega
  · simp only [Bool.and_eq_true, decide_eq_true_iff, not_and]
    omega

/-- **A WORD** between blanks is the first one. -/
theorem firstWord?_append {gap word rest : List Char} (hgap : ∀ c ∈ gap, isBlank c = true)
    (hne : word ≠ []) (hword : ∀ c ∈ word, isBlank c = false)
    (hrest : ∀ c ∈ rest.head?, isBlank c = true) :
    firstWord? (gap ++ word ++ rest) = some word := by
  obtain ⟨d, ds, rfl⟩ := List.exists_cons_of_ne_nil hne
  have hskip : (gap ++ (d :: ds) ++ rest).dropWhile isBlank = (d :: ds) ++ rest := by
    rw [List.append_assoc, List.dropWhile_append_of_pos hgap, List.cons_append,
      List.dropWhile_cons_of_neg (by simp [hword d List.mem_cons_self])]
  have hstop : rest.takeWhile (fun c => !isBlank c) = [] := by
    cases rest with
    | nil => rfl
    | cons c r => exact List.takeWhile_cons_of_neg (by simp [hrest c rfl])
  have hvisible : ∀ c ∈ d :: ds, (!isBlank c) = true := by
    intro c hc
    rw [hword c hc]
    rfl
  rw [firstWord?, hskip]
  show some (((d :: ds) ++ rest).takeWhile _) = _
  rw [List.takeWhile_append_of_pos hvisible, hstop, List.append_nil]

/-- A blank at the end of a text makes no other first word. -/
theorem firstWord?_append_blank {c : Char} (hc : isBlank c = true) (text : List Char) :
    firstWord? (text ++ [c]) = firstWord? text := by
  rw [firstWord?, firstWord?, List.dropWhile_append]
  cases text.dropWhile isBlank with
  | nil =>
      rw [List.isEmpty_nil, if_pos rfl, List.dropWhile_cons_of_pos hc]
      rfl
  | cons d r =>
      show some (((d :: r) ++ [c]).takeWhile _) = some ((d :: r).takeWhile _)
      rw [List.takeWhile_append]
      split
      · next hall =>
          rw [List.takeWhile_cons_of_neg (by simp [hc]), List.append_nil]
          exact congrArg some ((List.takeWhile_prefix _).eq_of_length hall).symm
      · rfl

end BenchSweep.Text
