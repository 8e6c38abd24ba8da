import BenchSweep.Binary64.Stepwise
import BenchSweep.Json.Basic

/-! # Reading JSON text

    The reader beside the compact printer.  It takes any JSON text: white space
    between tokens, every escape, numbers in all forms.  An integer that fits
    a 64-bit word, signed if it is negative, is kept exactly; every other number
    is a fraction, read in steps, and so is a zero with a minus sign.

    Each reader takes the front of a list of characters and gives the rest. -/

namespace BenchSweep.Json

/-- White space between tokens. -/
def isSpace (c : Char) : Bool :=
  c == ' ' || c == '\t' || c == '\n' || c == '\r'

/-- A text after the white space at its front. -/
def skip (text : List Char) : List Char :=
  text.dropWhile isSpace

-- ── Strings ───────────────────────────────────────────────────────────────

/-- The value of four hexadecimal digits. -/
def fourHex? : List Char → Option (Nat × List Char)
  | a :: b :: c :: d :: rest => (Text.value? 16 [a, b, c, d]).map fun n => (n, rest)
  | _                        => none

/-- The character behind `\u`: one unit, or two that belong together. -/
def unicode? (text : List Char) : Option (Char × List Char) := do
  let (high, rest) ← fourHex? text
  if high < 0xD800 ∨ 0xDFFF < high then return (Char.ofNat high, rest)
  else if 0xDBFF < high then none
  else
    match rest with
    | '\\' :: 'u' :: rest => do
        let (low, rest) ← fourHex? rest
        if 0xDC00 ≤ low ∧ low ≤ 0xDFFF then
          return (Char.ofNat (0x10000 + (high - 0xD800) * 0x400 + (low - 0xDC00)), rest)
        else none
    | _ => none

/-- The character of an escape letter. -/
def ofEscapeLetter? : Char → Option Char
  | '"'  => some '"'
  | '\\' => some '\\'
  | '/'  => some '/'
  | 'n'  => some '\n'
  | 'r'  => some '\r'
  | 't'  => some '\t'
  | 'b'  => some '\x08'
  | 'f'  => some '\x0c'
  | _    => none

/-- The character behind a backslash. -/
def escaped? : List Char → Option (Char × List Char)
  | 'u' :: rest    => unicode? rest
  | letter :: rest => (ofEscapeLetter? letter).map fun c => (c, rest)
  | []             => none

/-- The characters of a string up to the quote that ends it, in at most `fuel`
    steps. -/
def string? : (fuel : Nat) → List Char → Option (List Char × List Char)
  | 0, _                   => none
  | _, []                  => none
  | _, '"' :: rest         => some ([], rest)
  | fuel + 1, '\\' :: rest => do
      let (c, rest) ← escaped? rest
      let (cs, rest) ← string? fuel rest
      return (c :: cs, rest)
  | fuel + 1, c :: rest    =>
      if c.toNat < 0x20 then none
      else do
        let (cs, rest) ← string? fuel rest
        return (c :: cs, rest)

-- ── Numbers ───────────────────────────────────────────────────────────────

/-- The digits before the point: a zero alone, or digits that start with another
    one. -/
def wholePart? (text : List Char) : Option (List Char × List Char) :=
  match Binary64.spanDigits text with
  | ([], _)             => none
  | ('0' :: _ :: _, _)  => none
  | (digits, rest)      => some (digits, rest)

/-- The digits behind a point; no digits if there is no point. -/
def pointPart? : List Char → Option (List Char × List Char)
  | '.' :: rest =>
      match Binary64.spanDigits rest with
      | ([], _)        => none
      | (digits, rest) => some (digits, rest)
  | rest => some ([], rest)

/-- The digits of a decimal exponent behind its sign. -/
def exponentDigits? (text : List Char) : Option (Nat × List Char) :=
  let (digits, rest) := Binary64.spanDigits text
  (Text.value? 10 digits).map fun n => (n, rest)

/-- A decimal exponent, if there is one. -/
def exponentPart? : List Char → Option (Option Int × List Char)
  | c :: rest =>
      if c = 'e' ∨ c = 'E' then
        match rest with
        | '-' :: rest => (exponentDigits? rest).map fun (n, rest) => (some (-(n : Int)), rest)
        | rest        =>
            (exponentDigits? (Text.dropPlus rest)).map fun (n, rest) => (some (n : Int), rest)
      else some (none, c :: rest)
  | [] => some (none, [])

/-- A fraction from its sign and its parts; there is none that is too large. -/
def fraction? (negative : Bool) (whole part : List Char) (exp : Int) : Option Json :=
  (Decimal.ofParts whole part exp).stepwise?.map fun m => .fraction (.finite negative m)

/-- An integer: exact if it fits a word, a fraction otherwise. -/
def integer? (negative : Bool) (whole : List Char) : Option Json := do
  let n ← Text.value? 10 whole
  if negative then
    if 0 < n ∧ n ≤ 2 ^ 63 then some (.negative n) else fraction? negative whole [] 0
  else if n < 2 ^ 64 then some (.natural n)
  else fraction? negative whole [] 0

/-- The value of a number from its sign and its parts. -/
def number? (negative : Bool) (whole part : List Char) : Option Int → Option Json
  | some exp => fraction? negative whole part exp
  | none     => if part.isEmpty then integer? negative whole else fraction? negative whole part 0

/-- A number without its sign. -/
def unsigned? (negative : Bool) (text : List Char) : Option (Json × List Char) := do
  let (whole, rest) ← wholePart? text
  let (part, rest) ← pointPart? rest
  let (exp?, rest) ← exponentPart? rest
  return (← number? negative whole part exp?, rest)

-- ── Values ────────────────────────────────────────────────────────────────

/-- A value that is neither a list nor an object. -/
def scalar? : List Char → Option (Json × List Char)
  | 'n' :: 'u' :: 'l' :: 'l' :: rest        => some (.null, rest)
  | 't' :: 'r' :: 'u' :: 'e' :: rest        => some (.bool true, rest)
  | 'f' :: 'a' :: 'l' :: 's' :: 'e' :: rest => some (.bool false, rest)
  | '"' :: rest => do
      let (cs, rest) ← string? (rest.length + 1) rest
      return (.text (String.ofList cs), rest)
  | '-' :: rest => unsigned? true rest
  | rest        => unsigned? false rest

/-- The name of a field with the colon behind it. -/
def fieldName? (text : List Char) : Option (String × List Char) :=
  match skip text with
  | '"' :: rest => do
      let (cs, rest) ← string? (rest.length + 1) rest
      match skip rest with
      | ':' :: rest => some (String.ofList cs, rest)
      | _           => none
  | _ => none

mutual

/-- A value, in at most `fuel` steps. -/
def value? : (fuel : Nat) → List Char → Option (Json × List Char)
  | 0, _           => none
  | fuel + 1, front =>
      match skip front with
      | '[' :: rest =>
          match skip rest with
          | ']' :: rest => some (.list [], rest)
          | rest        => do
              let (items, rest) ← items? fuel rest
              return (.list items, rest)
      | '\x7b' :: rest =>
          match skip rest with
          | '\x7d' :: rest => some (.object [], rest)
          | rest           => do
              let (fields, rest) ← fields? fuel rest
              return (.object fields, rest)
      | front => scalar? front

/-- The items of a list up to its bracket. -/
def items? : (fuel : Nat) → List Char → Option (List Json × List Char)
  | 0, _           => none
  | fuel + 1, front => do
      let (item, rest) ← value? fuel front
      match skip rest with
      | ',' :: rest => do
          let (items, rest) ← items? fuel rest
          return (item :: items, rest)
      | ']' :: rest => some ([item], rest)
      | _           => none

/-- The fields of an object up to its brace. -/
def fields? : (fuel : Nat) → List Char → Option (List (String × Json) × List Char)
  | 0, _           => none
  | fuel + 1, front => do
      let (name, rest) ← fieldName? front
      let (value, rest) ← value? fuel rest
      match skip rest with
      | ',' :: rest => do
          let (fields, rest) ← fields? fuel rest
          return ((name, value) :: fields, rest)
      | '\x7d' :: rest => some ([(name, value)], rest)
      | _              => none

end

/-- **THE VALUE** of a JSON text. -/
def read? (text : List Char) : Option Json := do
  let (value, rest) ← value? (text.length + 1) text
  if (skip rest).isEmpty then some value else none

end BenchSweep.Json
