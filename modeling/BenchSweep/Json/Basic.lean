import BenchSweep.Binary64.Read
import BenchSweep.Text.Numeral

/-! # JSON values and their compact text

    Objects keep the order of their fields.  The text has no spaces; in strings
    only the quote, the backslash and control characters below the space are
    escaped, those with a letter of their own by it and the others by four
    lower-case hexadecimal digits. -/

namespace BenchSweep

/-- A JSON value.  Numbers are kept in the three forms a reader tells apart:
    natural numbers, negative integers (by their absolute value) and fractions. -/
inductive Json where
  | null
  | bool (value : Bool)
  | natural (value : Nat)
  | negative (absolute : Nat)
  | fraction (value : Binary64)
  | text (value : String)
  | list (items : List Json)
  | object (fields : List (String × Json))
deriving Inhabited

namespace Json

/-- The escape letter of a character that has one. -/
def escapeLetter? : Char → Option Char
  | '"'    => some '"'
  | '\\'   => some '\\'
  | '\n'   => some 'n'
  | '\r'   => some 'r'
  | '\t'   => some 't'
  | '\x08' => some 'b'
  | '\x0c' => some 'f'
  | _      => none

/-- A hexadecimal digit, letters in lower case. -/
def hexDigit (n : Nat) : Char :=
  if n < 10 then Char.ofNat (48 + n) else Char.ofNat (87 + n)

/-- One character of a string. -/
def escapeChar (c : Char) : List Char :=
  match escapeLetter? c with
  | some l => ['\\', l]
  | none =>
      if c.toNat < 0x20 then
        ['\\', 'u', '0', '0', hexDigit (c.toNat / 16), hexDigit (c.toNat % 16)]
      else [c]

/-- A string with its quotes. -/
def stringText (value : List Char) : List Char :=
  '"' :: (value.flatMap escapeChar ++ ['"'])

mutual

/-- The compact text of a value. -/
def chars : Json → List Char
  | .null       => "null".toList
  | .bool true  => "true".toList
  | .bool false => "false".toList
  | .natural n  => Text.decimal n
  | .negative n => '-' :: Text.decimal n
  | .fraction v => v.text.toList
  | .text s     => stringText s.toList
  | .list items => '[' :: (itemChars items ++ [']'])
  | .object fs  => '\x7b' :: (fieldChars fs ++ ['\x7d'])

/-- The items of a list, separated by commas. -/
def itemChars : List Json → List Char
  | []      => []
  | [v]     => chars v
  | v :: vs => chars v ++ ',' :: itemChars vs

/-- The fields of an object, separated by commas. -/
def fieldChars : List (String × Json) → List Char
  | []           => []
  | [(k, v)]     => stringText k.toList ++ ':' :: chars v
  | (k, v) :: fs => stringText k.toList ++ ':' :: (chars v ++ ',' :: fieldChars fs)

end

/-- The compact text of a value. -/
def compact (value : Json) : String :=
  String.ofList value.chars

end Json

end BenchSweep
