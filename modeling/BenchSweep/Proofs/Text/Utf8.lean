import BenchSweep.Text.Utf8

/-! # Texts as bytes

    A text is written as the bytes of its characters, one after the other
    (`encodeUtf8_eq_flatMap`), and the decoder, which takes any bytes, reads them
    back as the text they were written from (`decodeUtf8_encodeUtf8`).  A line feed
    is one byte, and that byte is part of no other character
    (`lineFeed_mem_encodeUtf8_iff`). -/

namespace BenchSweep.Text

/-- The bytes of a text are those of its characters. -/
theorem encodeUtf8_eq_flatMap (text : String) :
    encodeUtf8 text = text.toList.flatMap String.utf8EncodeChar := by
  rw [encodeUtf8, String.toUTF8, ← String.utf8Encode_toList, List.utf8Encode,
    List.data_toByteArray]

theorem encodeUtf8_append (s t : String) : encodeUtf8 (s ++ t) = encodeUtf8 s ++ encodeUtf8 t := by
  simp only [encodeUtf8_eq_flatMap, String.toList_append, List.flatMap_append]

/-! ## Reading a character back -/

namespace Sequence

/-- A byte where a character starts, by its number. -/
theorem start_ofNat {n : Nat} (hn : n < 256) :
    start (UInt8.ofNat n)
      = if n < 0x80 then ([Char.ofNat n], .idle)
        else if n < 0xC2 then ([replacement], .idle)
        else if n < 0xE0 then ([], .inside (n - 0xC0) 1 0x80 0xBF)
        else if n < 0xF0 then
          ([], .inside (n - 0xE0) 2 (if n = 0xE0 then 0xA0 else 0x80)
            (if n = 0xED then 0x9F else 0xBF))
        else if n < 0xF5 then
          ([], .inside (n - 0xF0) 3 (if n = 0xF0 then 0x90 else 0x80)
            (if n = 0xF4 then 0x8F else 0xBF))
        else ([replacement], .idle) := by
  have hbyte : (UInt8.ofNat n).toNat = n := UInt8.toNat_ofNat'.trans (Nat.mod_eq_of_lt hn)
  simp only [start, UInt8.lt_iff_toNat_lt, ← UInt8.toNat_inj, hbyte]
  rfl

/-- A byte that goes on with a sequence, in the range that is asked for. -/
theorem feed_inside {value missing n : Nat} {least greatest : UInt8}
    (hleast : least.toNat ≤ n) (hgreatest : n ≤ greatest.toNat) :
    feed (UInt8.ofNat n) (.inside value missing least greatest)
      = if missing ≤ 1 then ([Char.ofNat (value * 64 + (n - 0x80))], .idle)
        else ([], .inside (value * 64 + (n - 0x80)) (missing - 1) 0x80 0xBF) := by
  have hn : (UInt8.ofNat n).toNat = n :=
    UInt8.toNat_ofNat'.trans (Nat.mod_eq_of_lt (Nat.lt_of_le_of_lt hgreatest greatest.toNat_lt))
  have hrange : least ≤ UInt8.ofNat n ∧ UInt8.ofNat n ≤ greatest := by
    rw [UInt8.le_iff_toNat_le, UInt8.le_iff_toNat_le, hn]
    exact ⟨hleast, hgreatest⟩
  rw [feed, if_pos hrange, hn]

/-- The last byte of a sequence completes its character. -/
theorem decode_last {value n : Nat} {least greatest : UInt8} (hleast : least.toNat ≤ n)
    (hgreatest : n ≤ greatest.toNat) (rest : List UInt8) :
    (inside value 1 least greatest).decode (UInt8.ofNat n :: rest)
      = Char.ofNat (value * 64 + (n - 0x80)) :: idle.decode rest := by
  rw [decode, feed_inside hleast hgreatest, if_pos (Nat.le_refl 1)]
  rfl

/-- Any other byte of a sequence adds six bits. -/
theorem decode_more {value missing n : Nat} {least greatest : UInt8} (hleast : least.toNat ≤ n)
    (hgreatest : n ≤ greatest.toNat) (rest : List UInt8) :
    (inside value (missing + 2) least greatest).decode (UInt8.ofNat n :: rest)
      = (inside (value * 64 + (n - 0x80)) (missing + 1) 0x80 0xBF).decode rest := by
  rw [decode, feed_inside hleast hgreatest, if_neg (by omega)]
  rfl

theorem decode_one {v : Nat} (hv : v < 0x80) (rest : List UInt8) :
    idle.decode (UInt8.ofNat v :: rest) = Char.ofNat v :: idle.decode rest := by
  have hfeed : feed (UInt8.ofNat v) .idle = ([Char.ofNat v], .idle) := by
    rw [feed, start_ofNat (by omega), if_pos hv]
  rw [decode, hfeed]
  rfl

theorem decode_two {v : Nat} (hleast : 0x80 ≤ v) (hv : v < 0x800) (rest : List UInt8) :
    idle.decode (UInt8.ofNat (v / 64 % 32 + 192) :: UInt8.ofNat (v % 64 + 128) :: rest)
      = Char.ofNat v :: idle.decode rest := by
  have hlead : v / 64 % 32 + 192 = v / 64 + 192 := by omega
  have hfeed : feed (UInt8.ofNat (v / 64 + 192)) .idle
      = ([], .inside (v / 64) 1 0x80 0xBF) := by
    rw [feed, start_ofNat (by omega), if_neg (by omega), if_neg (by omega), if_pos (by omega),
      Nat.add_sub_cancel]
  have hvalue : v / 64 * 64 + (v % 64 + 128 - 0x80) = v := by omega
  rw [hlead, decode, hfeed]
  show (inside _ 1 _ _).decode _ = _
  rw [decode_last (Nat.le_add_left 128 _) (by show _ ≤ 191; omega), hvalue]

theorem decode_three {v : Nat} (hleast : 0x800 ≤ v) (hv : v < 0x10000)
    (hsurrogate : v < 0xD800 ∨ 0xDFFF < v) (rest : List UInt8) :
    idle.decode (UInt8.ofNat (v / 4096 % 16 + 224) :: UInt8.ofNat (v / 64 % 64 + 128)
        :: UInt8.ofNat (v % 64 + 128) :: rest)
      = Char.ofNat v :: idle.decode rest := by
  have hlead : v / 4096 % 16 + 224 = v / 4096 + 224 := by omega
  have hfeed : feed (UInt8.ofNat (v / 4096 + 224)) .idle
      = ([], .inside (v / 4096) 2 (if v / 4096 + 224 = 0xE0 then 0xA0 else 0x80)
          (if v / 4096 + 224 = 0xED then 0x9F else 0xBF)) := by
    rw [feed, start_ofNat (by omega), if_neg (by omega), if_neg (by omega), if_neg (by omega),
      if_pos (by omega), Nat.add_sub_cancel]
  have hvalue : (v / 4096 * 64 + (v / 64 % 64 + 128 - 0x80)) * 64 + (v % 64 + 128 - 0x80) = v := by
    omega
  rw [hlead, decode, hfeed]
  show (inside _ (0 + 2) _ _).decode _ = _
  rw [decode_more, decode_last (Nat.le_add_left 128 _) (by show _ ≤ 191; omega), hvalue]
  · split
    · show 160 ≤ _
      omega
    · exact Nat.le_add_left 128 _
  · split
    · show _ ≤ 159
      omega
    · show _ ≤ 191
      omega

theorem decode_four {v : Nat} (hleast : 0x10000 ≤ v) (hv : v < 0x110000) (rest : List UInt8) :
    idle.decode (UInt8.ofNat (v / 262144 % 8 + 240) :: UInt8.ofNat (v / 4096 % 64 + 128)
        :: UInt8.ofNat (v / 64 % 64 + 128) :: UInt8.ofNat (v % 64 + 128) :: rest)
      = Char.ofNat v :: idle.decode rest := by
  have hlead : v / 262144 % 8 + 240 = v / 262144 + 240 := by omega
  have hfeed : feed (UInt8.ofNat (v / 262144 + 240)) .idle
      = ([], .inside (v / 262144) 3 (if v / 262144 + 240 = 0xF0 then 0x90 else 0x80)
          (if v / 262144 + 240 = 0xF4 then 0x8F else 0xBF)) := by
    rw [feed, start_ofNat (by omega), if_neg (by omega), if_neg (by omega), if_neg (by omega),
      if_neg (by omega), if_pos (by omega), Nat.add_sub_cancel]
  have hvalue : ((v / 262144 * 64 + (v / 4096 % 64 + 128 - 0x80)) * 64
      + (v / 64 % 64 + 128 - 0x80)) * 64 + (v % 64 + 128 - 0x80) = v := by omega
  rw [hlead, decode, hfeed]
  show (inside _ (1 + 2) _ _).decode _ = _
  rw [decode_more, decode_more (Nat.le_add_left 128 _) (by show _ ≤ 191; omega),
    decode_last (Nat.le_add_left 128 _) (by show _ ≤ 191; omega), hvalue]
  · split
    · show 144 ≤ _
      omega
    · exact Nat.le_add_left 128 _
  · split
    · show _ ≤ 143
      omega
    · show _ ≤ 191
      omega

/-- **ONE CHARACTER** is read back from its bytes. -/
theorem decode_utf8EncodeChar (c : Char) (rest : List UInt8) :
    idle.decode (String.utf8EncodeChar c ++ rest) = c :: idle.decode rest := by
  have hvalid : c.toNat < 0xD800 ∨ (0xDFFF < c.toNat ∧ c.toNat < 0x110000) := c.valid
  suffices h : idle.decode (String.utf8EncodeChar c ++ rest)
      = Char.ofNat c.toNat :: idle.decode rest by rwa [Char.ofNat_toNat] at h
  rw [String.utf8EncodeChar, Char.toNat_val]
  split
  · next h => exact decode_one (Nat.lt_succ_of_le h) rest
  · next h =>
      have hleast := Nat.lt_of_not_le h
      split
      · next h' => exact decode_two hleast (Nat.lt_succ_of_le h') rest
      · next h' =>
          have hleast' := Nat.lt_of_not_le h'
          split
          · next h'' =>
              exact decode_three hleast' (Nat.lt_succ_of_le h'')
                (hvalid.imp_right And.left) rest
          · next h'' => exact decode_four (Nat.lt_of_not_le h'') (by omega) rest

/-- The characters of a text are read back one by one. -/
theorem decode_flatMap (cs : List Char) :
    idle.decode (cs.flatMap String.utf8EncodeChar) = cs := by
  induction cs with
  | nil => rfl
  | cons c cs ih => rw [List.flatMap_cons, decode_utf8EncodeChar, ih]

end Sequence

/-- **A TEXT** is read back from its bytes. -/
theorem decodeUtf8_encodeUtf8 (text : String) : decodeUtf8 (encodeUtf8 text) = text.toList := by
  rw [decodeUtf8, encodeUtf8_eq_flatMap, Sequence.decode_flatMap]

/-- The bytes of a text are well-formed. -/
theorem validUtf8?_encodeUtf8 (text : String) :
    validUtf8? (encodeUtf8 text) = some text.toList := by
  rw [validUtf8?, decodeUtf8_encodeUtf8, String.ofList_toList]
  exact if_pos rfl

theorem encodeUtf8_injective : Function.Injective encodeUtf8 := by
  intro s t h
  have hchars := congrArg decodeUtf8 h
  rw [decodeUtf8_encodeUtf8, decodeUtf8_encodeUtf8] at hchars
  exact String.toList_injective hchars

/-! ## Line feeds -/

/-- The bytes of a character of more than seven bits have the eighth bit set. -/
theorem le_of_mem_utf8EncodeChar {c : Char} {b : UInt8} (hc : 127 < c.toNat)
    (hb : b ∈ String.utf8EncodeChar c) : 128 ≤ b.toNat := by
  have hbyte : ∀ n, 128 ≤ n % 256 → 128 ≤ (UInt8.ofNat n).toNat := fun n hn =>
    UInt8.toNat_ofNat'.symm ▸ hn
  rw [String.utf8EncodeChar, Char.toNat_val, if_neg (Nat.not_le_of_lt hc)] at hb
  split at hb
  · simp only [List.mem_cons, List.not_mem_nil, or_false] at hb
    rcases hb with rfl | rfl
    · exact hbyte _ (by omega)
    · exact hbyte _ (by omega)
  · split at hb
    · simp only [List.mem_cons, List.not_mem_nil, or_false] at hb
      rcases hb with rfl | rfl | rfl
      · exact hbyte _ (by omega)
      · exact hbyte _ (by omega)
      · exact hbyte _ (by omega)
    · simp only [List.mem_cons, List.not_mem_nil, or_false] at hb
      rcases hb with rfl | rfl | rfl | rfl
      · exact hbyte _ (by omega)
      · exact hbyte _ (by omega)
      · exact hbyte _ (by omega)
      · exact hbyte _ (by omega)

/-- No other character than a line feed has the byte of one. -/
theorem lineFeed_mem_utf8EncodeChar_iff (c : Char) :
    10 ∈ String.utf8EncodeChar c ↔ c = '\n' := by
  constructor
  · intro h
    have hascii : c.toNat ≤ 127 := Nat.le_of_not_lt fun hc =>
      absurd (le_of_mem_utf8EncodeChar hc h) (by decide)
    rw [String.utf8EncodeChar, Char.toNat_val, if_pos hascii, List.mem_singleton] at h
    have hten : c.toNat = 10 := by
      have hnat := congrArg UInt8.toNat h
      rw [UInt8.toNat_ofNat', Nat.mod_eq_of_lt (by omega)] at hnat
      exact hnat.symm
    rw [← Char.ofNat_toNat c, hten]
  · rintro rfl
    decide

/-- A text holds a line feed exactly if its bytes do. -/
theorem lineFeed_mem_encodeUtf8_iff (text : String) :
    10 ∈ encodeUtf8 text ↔ '\n' ∈ text.toList := by
  simp only [encodeUtf8_eq_flatMap, List.mem_flatMap, lineFeed_mem_utf8EncodeChar_iff,
    exists_eq_right]

end BenchSweep.Text
