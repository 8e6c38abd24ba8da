import BenchSweep.Json.Read
import BenchSweep.Proofs.Text.Numeral

/-! # Reading values back

    The compact text of a value is read back as that value (`read?_chars`).  That is
    asked of values whose numbers are read exactly (`IsExact`): natural numbers and
    negative integers that fit a 64-bit word.  Strings may hold any characters; what is
    written of them holds no control character (`not_control_chars`). -/

namespace BenchSweep.Json

open Text Binary64

mutual

/-- The numbers of a value are of those that a reader keeps exactly. -/
def IsExact : Json → Prop
  | .natural n  => n < 2 ^ 64
  | .negative n => 0 < n ∧ n ≤ 2 ^ 63
  | .fraction _ => False
  | .list items => ItemsExact items
  | .object fs  => FieldsExact fs
  | _           => True

/-- The same of every item. -/
def ItemsExact : List Json → Prop
  | []      => True
  | v :: vs => IsExact v ∧ ItemsExact vs

/-- The same of the value of every field. -/
def FieldsExact : List (String × Json) → Prop
  | []      => True
  | f :: fs => IsExact f.2 ∧ FieldsExact fs

end

/-! ## Strings -/

/-- The two last digits of an escaped control character are its number. -/
theorem value?_hexDigits {n : Nat} (hn : n < 0x20) :
    Text.value? 16 ['0', '0', hexDigit (n / 16), hexDigit (n % 16)] = some n := by
  have hall : ∀ k : Fin 0x20, Text.value? 16 ['0', '0', hexDigit (k.val / 16), hexDigit (k.val % 16)]
      = some k.val := by decide +kernel
  exact hall ⟨n, hn⟩

/-- An escape letter stands for the character it was chosen for. -/
theorem escaped?_escapeLetter {c l : Char} (h : escapeLetter? c = some l) (rest : List Char) :
    escaped? (l :: rest) = some (c, rest) := by
  unfold escapeLetter? at h
  split at h
  all_goals first | cases h; rfl | cases h

/-- An escaped control character is read back. -/
theorem escaped?_control {c : Char} (hc : c.toNat < 0x20) (rest : List Char) :
    escaped? ('u' :: '0' :: '0' :: hexDigit (c.toNat / 16) :: hexDigit (c.toNat % 16) :: rest)
      = some (c, rest) := by
  have hhigh : c.toNat < 0xD800 ∨ 0xDFFF < c.toNat := .inl (Nat.lt_trans hc (by decide))
  simp only [escaped?, unicode?, fourHex?, value?_hexDigits hc, Option.map_some,
    Option.bind_eq_bind, Option.bind_some, if_pos hhigh, Char.ofNat_toNat, Option.pure_def]

/-- **ONE CHARACTER** of a string is read back. -/
theorem string?_escapeChar (fuel : Nat) (c : Char) (rest : List Char) :
    string? (fuel + 1) (escapeChar c ++ rest)
      = (string? fuel rest).bind fun p => some (c :: p.1, p.2) := by
  rw [escapeChar]
  cases hletter : escapeLetter? c with
  | some l =>
      show string? (fuel + 1) ('\\' :: l :: rest) = _
      simp only [string?, escaped?_escapeLetter hletter, Option.bind_eq_bind, Option.bind_some]
      rfl
  | none =>
      rcases Nat.lt_or_ge c.toNat 0x20 with hlt | hge
      · simp only [if_pos hlt]
        show string? (fuel + 1) ('\\' :: 'u' :: '0' :: '0' :: _ :: _ :: rest) = _
        simp only [string?, escaped?_control hlt, Option.bind_eq_bind, Option.bind_some]
        rfl
      · simp only [if_neg (Nat.not_lt_of_le hge)]
        show string? (fuel + 1) (c :: rest) = _
        have hquote : c ≠ '"' := by
          rintro rfl
          exact nomatch hletter
        have hbackslash : c ≠ '\\' := by
          rintro rfl
          exact nomatch hletter
        rw [string?, if_neg (Nat.not_lt_of_le hge)]
        · rfl
        · exact hquote
        · exact hbackslash

/-- **A STRING** is read back up to the quote that ends it. -/
theorem string?_flatMap_escapeChar {fuel : Nat} (cs rest : List Char) (hfuel : cs.length < fuel) :
    string? fuel (cs.flatMap escapeChar ++ '"' :: rest) = some (cs, rest) := by
  induction cs generalizing fuel with
  | nil =>
      obtain ⟨fuel, rfl⟩ := Nat.exists_eq_add_one_of_ne_zero (Nat.ne_of_gt hfuel)
      rfl
  | cons c cs ih =>
      obtain ⟨fuel, rfl⟩ := Nat.exists_eq_add_one_of_ne_zero (Nat.ne_zero_of_lt hfuel)
      rw [List.flatMap_cons, List.append_assoc, string?_escapeChar,
        ih (Nat.lt_of_succ_lt_succ hfuel)]
      rfl

/-! ## Numbers -/

/-- What may follow a value: nothing, or a sign that belongs to what is around it. -/
def Follows (rest : List Char) : Prop :=
  ∀ c ∈ rest.head?, c = ',' ∨ c = ']' ∨ c = '\x7d'

theorem follows_nil : Follows [] := fun _ hc => nomatch hc

theorem follows_cons {c : Char} (hc : c = ',' ∨ c = ']' ∨ c = '\x7d') (rest : List Char) :
    Follows (c :: rest) := fun _ hd => Option.some.inj hd ▸ hc

/-- What may follow a value goes on with no number. -/
theorem Follows.ne {rest : List Char} (hrest : Follows rest) {d : Char}
    (hd : d ≠ ',' ∧ d ≠ ']' ∧ d ≠ '\x7d') : rest.head? ≠ some d := by
  intro h
  rcases hrest d h with rfl | rfl | rfl
  · exact hd.1 rfl
  · exact hd.2.1 rfl
  · exact hd.2.2 rfl

theorem Follows.not_digit {rest : List Char} (hrest : Follows rest) :
    ∀ c ∈ rest.head?, c.isDigit = false := by
  intro c hc
  rcases hrest c hc with rfl | rfl | rfl
  · rfl
  · rfl
  · rfl

/-- The digits of a number are the whole part of it. -/
theorem wholePart?_decimal (n : Nat) {rest : List Char} (hrest : Follows rest) :
    wholePart? (decimal n ++ rest) = some (decimal n, rest) := by
  rw [wholePart?, spanDigits_append (fun d hd => isDigit_of_mem_decimal hd) hrest.not_digit]
  split
  · next h => exact absurd (congrArg Prod.fst h) (decimal_ne_nil n)
  · next h => exact nomatch decimal_eq_zero_cons (congrArg Prod.fst h)
  · next h =>
      obtain ⟨rfl, rfl⟩ := Prod.mk.inj h
      rfl

theorem pointPart?_of_follows {rest : List Char} (hrest : Follows rest) :
    pointPart? rest = some ([], rest) := by
  rw [pointPart?]
  rintro rest' rfl
  exact hrest.ne (by decide) rfl

theorem exponentPart?_of_follows {rest : List Char} (hrest : Follows rest) :
    exponentPart? rest = some (none, rest) := by
  cases rest with
  | nil => rfl
  | cons c rest =>
      have hmark : ¬ (c = 'e' ∨ c = 'E') := by
        rintro (rfl | rfl)
        · exact hrest.ne (by decide) rfl
        · exact hrest.ne (by decide) rfl
      unfold exponentPart?
      exact if_neg hmark

/-- A numeral without point and exponent is an integer. -/
theorem unsigned?_decimal (negative : Bool) (n : Nat) {rest : List Char} (hrest : Follows rest) :
    unsigned? negative (decimal n ++ rest)
      = (integer? negative (decimal n)).bind fun v => some (v, rest) := by
  simp only [unsigned?, wholePart?_decimal n hrest, pointPart?_of_follows hrest,
    exponentPart?_of_follows hrest, Option.bind_eq_bind, Option.bind_some]
  rfl

theorem integer?_natural {n : Nat} (hn : n < 2 ^ 64) :
    integer? false (decimal n) = some (.natural n) := by
  simp only [integer?, value?_decimal, Option.bind_eq_bind, Option.bind_some, if_pos hn]
  rfl

theorem integer?_negative {n : Nat} (hn : 0 < n ∧ n ≤ 2 ^ 63) :
    integer? true (decimal n) = some (.negative n) := by
  simp only [integer?, value?_decimal, Option.bind_eq_bind, Option.bind_some, if_pos hn]
  rfl

/-! ## Values -/

/-- How the text of a value may begin: with no white space, and not as if a list or an
    object ended. -/
def Begins (text : List Char) : Prop :=
  ∃ c cs, text = c :: cs ∧ isSpace c = false ∧ c ≠ ']' ∧ c ≠ '\x7d'

/-- No white space is skipped where there is none. -/
theorem skip_cons {c : Char} (cs : List Char) (hc : isSpace c = false) :
    skip (c :: cs) = c :: cs :=
  List.dropWhile_cons_of_neg (by rw [hc]; exact Bool.false_ne_true)

/-- A numeral begins with a digit. -/
theorem exists_digit_decimal (n : Nat) : ∃ d ds, decimal n = d :: ds ∧ d.isDigit = true := by
  obtain ⟨d, ds, hcons⟩ := List.exists_cons_of_ne_nil (decimal_ne_nil n)
  exact ⟨d, ds, hcons, isDigit_of_mem_decimal (hcons ▸ List.mem_cons_self)⟩

theorem ne_of_isDigit {c d : Char} (hc : c.isDigit = true) (hd : d.isDigit = false) : c ≠ d := by
  rintro rfl
  rw [hc] at hd
  exact nomatch hd

theorem isSpace_of_isDigit {c : Char} (hc : c.isDigit = true) : isSpace c = false := by
  have hne : ∀ d : Char, d.isDigit = false → (c == d) = false := fun d hd =>
    beq_false_of_ne (ne_of_isDigit hc hd)
  rw [isSpace, hne ' ' rfl, hne '\t' rfl, hne '\n' rfl, hne '\r' rfl]
  rfl

theorem begins_chars {v : Json} (hv : v.IsExact) : Begins v.chars := by
  cases v with
  | null => exact ⟨_, _, rfl, rfl, by decide, by decide⟩
  | bool b =>
      cases b with
      | true => exact ⟨_, _, rfl, rfl, by decide, by decide⟩
      | false => exact ⟨_, _, rfl, rfl, by decide, by decide⟩
  | natural n =>
      obtain ⟨d, ds, hcons, hd⟩ := exists_digit_decimal n
      exact ⟨d, ds, hcons, isSpace_of_isDigit hd, ne_of_isDigit hd rfl, ne_of_isDigit hd rfl⟩
  | negative n => exact ⟨_, _, rfl, rfl, by decide, by decide⟩
  | fraction x => exact hv.elim
  | text s => exact ⟨_, _, rfl, rfl, by decide, by decide⟩
  | list items => exact ⟨_, _, rfl, rfl, by decide, by decide⟩
  | object fs => exact ⟨_, _, rfl, rfl, by decide, by decide⟩

theorem Begins.append {text : List Char} (htext : Begins text) (rest : List Char) :
    Begins (text ++ rest) := by
  obtain ⟨c, cs, rfl, hc⟩ := htext
  exact ⟨c, cs ++ rest, rfl, hc⟩

theorem Begins.skip_eq {text : List Char} (htext : Begins text) : skip text = text := by
  obtain ⟨c, cs, rfl, hspace, -⟩ := htext
  exact skip_cons cs hspace

theorem begins_itemChars {v : Json} {vs : List Json} (hv : v.IsExact) :
    Begins (itemChars (v :: vs)) := by
  cases vs with
  | nil => exact begins_chars hv
  | cons w ws => exact (begins_chars hv).append _

theorem begins_fieldChars (f : String × Json) (fs : List (String × Json)) :
    Begins (fieldChars (f :: fs)) := by
  cases fs with
  | nil => exact ⟨_, _, rfl, rfl, by decide, by decide⟩
  | cons g gs => exact ⟨_, _, rfl, rfl, by decide, by decide⟩

/-- A text that begins neither a list nor an object is that of a scalar. -/
theorem value?_scalar {fuel : Nat} {c : Char} {cs : List Char} (hspace : isSpace c = false)
    (hlist : c ≠ '[') (hobject : c ≠ '\x7b') :
    value? (fuel + 1) (c :: cs) = scalar? (c :: cs) := by
  rw [value?, skip_cons cs hspace]
  split
  · next h => exact absurd (List.cons.inj h).1 hlist
  · next h => exact absurd (List.cons.inj h).1 hobject
  · rfl

/-- A text that begins with a digit is that of a number. -/
theorem scalar?_digit {c : Char} {cs : List Char} (hc : c.isDigit = true) :
    scalar? (c :: cs) = unsigned? false (c :: cs) := by
  unfold scalar?
  split
  · next h => exact absurd (List.cons.inj h).1 (ne_of_isDigit hc rfl)
  · next h => exact absurd (List.cons.inj h).1 (ne_of_isDigit hc rfl)
  · next h => exact absurd (List.cons.inj h).1 (ne_of_isDigit hc rfl)
  · next h => exact absurd (List.cons.inj h).1 (ne_of_isDigit hc rfl)
  · next h => exact absurd (List.cons.inj h).1 (ne_of_isDigit hc rfl)
  · rfl

theorem escapeChar_ne_nil (c : Char) : escapeChar c ≠ [] := by
  rw [escapeChar]
  split
  · exact List.cons_ne_nil _ _
  · split
    · exact List.cons_ne_nil _ _
    · exact List.cons_ne_nil _ _

/-- Escapes make no text shorter. -/
theorem length_le_flatMap_escapeChar (cs : List Char) :
    cs.length ≤ (cs.flatMap escapeChar).length := by
  induction cs with
  | nil => exact Nat.le_refl 0
  | cons c cs ih =>
      have hpos := List.length_pos_iff.mpr (escapeChar_ne_nil c)
      rw [List.flatMap_cons, List.length_append, List.length_cons]
      omega

/-- A string behind its opening quote, in as many steps as the text is long. -/
theorem string?_stringText (cs rest : List Char) :
    string? ((cs.flatMap escapeChar ++ '"' :: rest).length + 1)
        (cs.flatMap escapeChar ++ '"' :: rest)
      = some (cs, rest) := by
  have hlength := length_le_flatMap_escapeChar cs
  refine string?_flatMap_escapeChar cs rest ?_
  rw [List.length_append]
  omega

theorem scalar?_text (s : String) (rest : List Char) :
    scalar? (stringText s.toList ++ rest) = some (.text s, rest) := by
  have hquote : stringText s.toList ++ rest
      = '"' :: (s.toList.flatMap escapeChar ++ '"' :: rest) := by
    simp [stringText]
  rw [hquote]
  simp only [scalar?, string?_stringText, Option.bind_eq_bind, Option.bind_some,
    String.ofList_toList]
  rfl

theorem fieldName?_stringText (k : String) (rest : List Char) :
    fieldName? (stringText k.toList ++ ':' :: rest) = some (k, rest) := by
  have hquote : stringText k.toList ++ ':' :: rest
      = '"' :: (k.toList.flatMap escapeChar ++ '"' :: ':' :: rest) := by
    simp [stringText]
  have hcolon : isSpace ':' = false := rfl
  rw [hquote, fieldName?, skip_cons _ rfl]
  simp only [string?_stringText, Option.bind_eq_bind, Option.bind_some, skip_cons rest hcolon,
    String.ofList_toList]

theorem value?_natural {n fuel : Nat} (hn : n < 2 ^ 64) {rest : List Char}
    (hrest : Follows rest) : value? (fuel + 1) (decimal n ++ rest) = some (.natural n, rest) := by
  have hnumber := unsigned?_decimal false n hrest
  rw [integer?_natural hn, Option.bind_some] at hnumber
  obtain ⟨d, ds, hcons, hd⟩ := exists_digit_decimal n
  rw [hcons, List.cons_append] at hnumber ⊢
  rw [value?_scalar (isSpace_of_isDigit hd) (ne_of_isDigit hd rfl) (ne_of_isDigit hd rfl),
    scalar?_digit hd, hnumber]

theorem value?_negative {n fuel : Nat} (hn : 0 < n ∧ n ≤ 2 ^ 63) {rest : List Char}
    (hrest : Follows rest) :
    value? (fuel + 1) ('-' :: decimal n ++ rest) = some (.negative n, rest) := by
  have hnumber := unsigned?_decimal true n hrest
  rw [integer?_negative hn, Option.bind_some] at hnumber
  rw [List.cons_append, value?_scalar rfl (by decide) (by decide)]
  exact hnumber

theorem value?_text {fuel : Nat} (s : String) (rest : List Char) :
    value? (fuel + 1) (stringText s.toList ++ rest) = some (.text s, rest) :=
  (value?_scalar rfl (by decide) (by decide)).trans (scalar?_text s rest)

/-! ## Lists and objects

    In these lemmas `text` is the text of what is read first, and `rest` follows the
    whole value. -/

section Nested

variable {fuel : Nat} {text rest : List Char}

theorem value?_list {items : List Json} (htext : Begins text)
    (hitems : items? fuel (text ++ ']' :: rest) = some (items, rest)) :
    value? (fuel + 1) ('[' :: (text ++ [']']) ++ rest) = some (.list items, rest) := by
  have hopen : '[' :: (text ++ [']']) ++ rest = '[' :: (text ++ ']' :: rest) := by simp
  rw [hopen, value?, skip_cons _ rfl]
  simp only [(htext.append (']' :: rest)).skip_eq]
  obtain ⟨c, cs, rfl, -, hc, -⟩ := htext
  split
  · next h => exact absurd (List.cons.inj h).1 hc
  · rw [hitems]
    rfl

theorem value?_object {fs : List (String × Json)} (htext : Begins text)
    (hfields : fields? fuel (text ++ '\x7d' :: rest) = some (fs, rest)) :
    value? (fuel + 1) ('\x7b' :: (text ++ ['\x7d']) ++ rest) = some (.object fs, rest) := by
  have hopen : '\x7b' :: (text ++ ['\x7d']) ++ rest = '\x7b' :: (text ++ '\x7d' :: rest) := by
    simp
  rw [hopen, value?, skip_cons _ rfl]
  simp only [(htext.append ('\x7d' :: rest)).skip_eq]
  obtain ⟨c, cs, rfl, -, -, hc⟩ := htext
  split
  · next h => exact absurd (List.cons.inj h).1 hc
  · rw [hfields]
    rfl

theorem items?_last {v : Json}
    (hvalue : value? fuel (text ++ ']' :: rest) = some (v, ']' :: rest)) :
    items? (fuel + 1) (text ++ ']' :: rest) = some ([v], rest) := by
  rw [items?, hvalue]
  rfl

theorem items?_more {v : Json} {vs : List Json} {more : List Char}
    (hvalue : value? fuel (text ++ ',' :: more) = some (v, ',' :: more))
    (hmore : items? fuel more = some (vs, rest)) :
    items? (fuel + 1) (text ++ ',' :: more) = some (v :: vs, rest) := by
  rw [items?, hvalue]
  show (items? fuel more).bind _ = _
  rw [hmore]
  rfl

theorem fields?_last {k : String} {v : Json}
    (hvalue : value? fuel (text ++ '\x7d' :: rest) = some (v, '\x7d' :: rest)) :
    fields? (fuel + 1) (stringText k.toList ++ ':' :: (text ++ '\x7d' :: rest))
      = some ([(k, v)], rest) := by
  rw [fields?, fieldName?_stringText]
  show (value? fuel _).bind _ = _
  rw [hvalue]
  rfl

theorem fields?_more {k : String} {v : Json} {fs : List (String × Json)} {more : List Char}
    (hvalue : value? fuel (text ++ ',' :: more) = some (v, ',' :: more))
    (hmore : fields? fuel more = some (fs, rest)) :
    fields? (fuel + 1) (stringText k.toList ++ ':' :: (text ++ ',' :: more))
      = some ((k, v) :: fs, rest) := by
  rw [fields?, fieldName?_stringText]
  show (value? fuel _).bind _ = _
  rw [hvalue]
  show (fields? fuel more).bind _ = _
  rw [hmore]
  rfl

end Nested

mutual

/-- **A VALUE** is read back, whatever may follow it. -/
theorem value?_chars : ∀ (v : Json), v.IsExact → ∀ {fuel : Nat} {rest : List Char},
    v.chars.length < fuel → Follows rest → value? fuel (v.chars ++ rest) = some (v, rest)
  | _, _, 0, _, hfuel, _ => absurd hfuel (Nat.not_lt_zero _)
  | .null, _, _ + 1, _, _, _ => rfl
  | .bool true, _, _ + 1, _, _, _ => rfl
  | .bool false, _, _ + 1, _, _, _ => rfl
  | .natural _, hv, _ + 1, _, _, hrest => value?_natural hv hrest
  | .negative _, hv, _ + 1, _, _, hrest => value?_negative hv hrest
  | .fraction _, hv, _, _, _, _ => hv.elim
  | .text s, _, _ + 1, rest, _, _ => value?_text s rest
  | .list [], _, _ + 1, _, _, _ => rfl
  | .list (v :: vs), hv, fuel + 1, rest, hfuel, _ => by
      have hlength : (itemChars (v :: vs)).length + 1 < fuel := by
        simp only [chars, List.length_append, List.length_cons, List.length_nil] at hfuel
        omega
      exact value?_list (begins_itemChars hv.1)
        (items?_itemChars (v :: vs) hv (List.cons_ne_nil v vs) hlength)
  | .object [], _, _ + 1, _, _, _ => rfl
  | .object (f :: fs), hv, fuel + 1, rest, hfuel, _ => by
      have hlength : (fieldChars (f :: fs)).length + 1 < fuel := by
        simp only [chars, List.length_append, List.length_cons, List.length_nil] at hfuel
        omega
      exact value?_object (begins_fieldChars f fs)
        (fields?_fieldChars (f :: fs) hv (List.cons_ne_nil f fs) hlength)

/-- The items of a list are read back. -/
theorem items?_itemChars : ∀ (items : List Json), ItemsExact items → items ≠ [] →
    ∀ {fuel : Nat} {rest : List Char}, (itemChars items).length + 1 < fuel →
    items? fuel (itemChars items ++ ']' :: rest) = some (items, rest)
  | [], _, hne, _, _, _ => absurd rfl hne
  | _, _, _, 0, _, hfuel => absurd hfuel (Nat.not_lt_zero _)
  | [v], hv, _, fuel + 1, rest, hfuel =>
      items?_last (value?_chars v hv.1 (Nat.lt_of_succ_lt_succ hfuel)
        (follows_cons (.inr (.inl rfl)) rest))
  | v :: w :: ws, hv, _, fuel + 1, rest, hfuel => by
      have hlength : v.chars.length + (itemChars (w :: ws)).length + 1 < fuel := by
        simp only [itemChars, List.length_append, List.length_cons] at hfuel
        omega
      have hitems : itemChars (v :: w :: ws) ++ ']' :: rest
          = v.chars ++ ',' :: (itemChars (w :: ws) ++ ']' :: rest) := by
        simp [itemChars]
      have hvalue : value? fuel (v.chars ++ ',' :: (itemChars (w :: ws) ++ ']' :: rest))
          = some (v, ',' :: (itemChars (w :: ws) ++ ']' :: rest)) :=
        value?_chars v hv.1 (by omega) (follows_cons (.inl rfl) _)
      rw [hitems]
      exact items?_more hvalue
        (items?_itemChars (w :: ws) hv.2 (List.cons_ne_nil w ws) (by omega))

/-- The fields of an object are read back. -/
theorem fields?_fieldChars : ∀ (fs : List (String × Json)), FieldsExact fs → fs ≠ [] →
    ∀ {fuel : Nat} {rest : List Char}, (fieldChars fs).length + 1 < fuel →
    fields? fuel (fieldChars fs ++ '\x7d' :: rest) = some (fs, rest)
  | [], _, hne, _, _, _ => absurd rfl hne
  | _, _, _, 0, _, hfuel => absurd hfuel (Nat.not_lt_zero _)
  | [(k, v)], hv, _, fuel + 1, rest, hfuel => by
      have hlength : (stringText k.toList).length + v.chars.length + 1 < fuel := by
        simp only [fieldChars, List.length_append, List.length_cons] at hfuel
        omega
      have hfields : fieldChars [(k, v)] ++ '\x7d' :: rest
          = stringText k.toList ++ ':' :: (v.chars ++ '\x7d' :: rest) := by
        simp [fieldChars]
      rw [hfields]
      exact fields?_last (value?_chars v hv.1 (by omega)
        (follows_cons (.inr (.inr rfl)) rest))
  | (k, v) :: f :: fs, hv, _, fuel + 1, rest, hfuel => by
      have hlength : (stringText k.toList).length + v.chars.length
          + (fieldChars (f :: fs)).length + 2 < fuel := by
        simp only [fieldChars, List.length_append, List.length_cons] at hfuel
        omega
      have hfields : fieldChars ((k, v) :: f :: fs) ++ '\x7d' :: rest
          = stringText k.toList ++ ':' :: (v.chars ++ ',' :: (fieldChars (f :: fs)
              ++ '\x7d' :: rest)) := by
        simp [fieldChars]
      rw [hfields]
      exact fields?_more (value?_chars v hv.1 (by omega) (follows_cons (.inl rfl) _))
        (fields?_fieldChars (f :: fs) hv.2 (List.cons_ne_nil f fs) (by omega))

end

/-- **A TEXT** is read back as the value it was written for. -/
theorem read?_chars {v : Json} (hv : v.IsExact) : read? v.chars = some v := by
  have hvalue := value?_chars v hv (Nat.lt_succ_self _) follows_nil
  rw [List.append_nil] at hvalue
  rw [read?, hvalue]
  rfl

/-! ## Control characters -/

theorem not_control_of_all {text : List Char} (h : text.all (0x20 ≤ ·.toNat) = true) :
    ∀ d ∈ text, 0x20 ≤ d.toNat :=
  fun d hd => of_decide_eq_true (List.all_eq_true.mp h d hd)

theorem not_control_of_isDigit {c : Char} (hc : c.isDigit = true) : 0x20 ≤ c.toNat := by
  have hle : 48 ≤ c.toNat := UInt32.le_iff_toNat_le.mp ((isDigit_iff c).mp hc).1
  omega

theorem not_control_escapeLetter {c l : Char} (h : escapeLetter? c = some l) :
    0x20 ≤ l.toNat := by
  unfold escapeLetter? at h
  split at h
  all_goals first | cases h; decide | cases h

/-- What is written of a character is no control character. -/
theorem not_control_escapeChar (c : Char) : ∀ d ∈ escapeChar c, 0x20 ≤ d.toNat := by
  have hhex : ∀ n : Fin 16, 0x20 ≤ (hexDigit n.val).toNat := by decide
  intro d hd
  rw [escapeChar] at hd
  cases hletter : escapeLetter? c with
  | some l =>
      simp only [hletter, List.mem_cons, List.not_mem_nil, or_false] at hd
      rcases hd with rfl | rfl
      · decide
      · exact not_control_escapeLetter hletter
  | none =>
      simp only [hletter] at hd
      split at hd
      · next hlt =>
          simp only [List.mem_cons, List.not_mem_nil, or_false] at hd
          rcases hd with rfl | rfl | rfl | rfl | rfl | rfl
          · decide
          · decide
          · decide
          · decide
          · exact hhex ⟨c.toNat / 16, by omega⟩
          · exact hhex ⟨c.toNat % 16, by omega⟩
      · next hge =>
          obtain rfl := List.mem_singleton.mp hd
          exact Nat.le_of_not_lt hge

theorem not_control_stringText (cs : List Char) : ∀ d ∈ stringText cs, 0x20 ≤ d.toNat := by
  intro d hd
  simp only [stringText, List.mem_cons, List.mem_append, List.mem_flatMap, List.not_mem_nil,
    or_false] at hd
  rcases hd with rfl | ⟨c, -, hd⟩ | rfl
  · decide
  · exact not_control_escapeChar c d hd
  · decide

mutual

/-- **NO CONTROL CHARACTER** stands in the text of a value, line feeds included. -/
theorem not_control_chars : ∀ (v : Json), v.IsExact → ∀ d ∈ v.chars, 0x20 ≤ d.toNat
  | .null, _ => not_control_of_all rfl
  | .bool true, _ => not_control_of_all rfl
  | .bool false, _ => not_control_of_all rfl
  | .natural _, _ => fun _ hd => not_control_of_isDigit (isDigit_of_mem_decimal hd)
  | .negative _, _ => fun d hd => by
      rcases List.mem_cons.mp hd with rfl | hd
      · decide
      · exact not_control_of_isDigit (isDigit_of_mem_decimal hd)
  | .fraction _, hv => hv.elim
  | .text s, _ => not_control_stringText s.toList
  | .list items, hv => fun d hd => by
      simp only [chars, List.mem_cons, List.mem_append, List.not_mem_nil, or_false] at hd
      rcases hd with rfl | hd | rfl
      · decide
      · exact not_control_itemChars items hv d hd
      · decide
  | .object fs, hv => fun d hd => by
      simp only [chars, List.mem_cons, List.mem_append, List.not_mem_nil, or_false] at hd
      rcases hd with rfl | hd | rfl
      · decide
      · exact not_control_fieldChars fs hv d hd
      · decide

theorem not_control_itemChars : ∀ (items : List Json), ItemsExact items →
    ∀ d ∈ itemChars items, 0x20 ≤ d.toNat
  | [], _ => fun _ hd => nomatch hd
  | [v], hv => not_control_chars v hv.1
  | v :: w :: ws, hv => fun d hd => by
      simp only [itemChars, List.mem_append, List.mem_cons] at hd
      rcases hd with hd | rfl | hd
      · exact not_control_chars v hv.1 d hd
      · decide
      · exact not_control_itemChars (w :: ws) hv.2 d hd

theorem not_control_fieldChars : ∀ (fs : List (String × Json)), FieldsExact fs →
    ∀ d ∈ fieldChars fs, 0x20 ≤ d.toNat
  | [], _ => fun _ hd => nomatch hd
  | [(k, v)], hv => fun d hd => by
      simp only [fieldChars, List.mem_append, List.mem_cons] at hd
      rcases hd with hd | rfl | hd
      · exact not_control_stringText k.toList d hd
      · decide
      · exact not_control_chars v hv.1 d hd
  | (k, v) :: f :: fs, hv => fun d hd => by
      simp only [fieldChars, List.mem_append, List.mem_cons] at hd
      rcases hd with hd | rfl | hd | rfl | hd
      · exact not_control_stringText k.toList d hd
      · decide
      · exact not_control_chars v hv.1 d hd
      · decide
      · exact not_control_fieldChars (f :: fs) hv.2 d hd

end

end BenchSweep.Json
