import BenchSweep.Text.Printable

/-! # Quoted texts in messages

    A message shows a text between double quotes.  Quote, backslash and the
    common controls are escaped by a letter, other characters without a shape by
    their code point in braces. -/

namespace BenchSweep.Text

/-- The escape letter of a character that has one. -/
def escapeLetter? : Char → Option Char
  | '\x00' => some '0'
  | '\t'   => some 't'
  | '\r'   => some 'r'
  | '\n'   => some 'n'
  | '\\'   => some '\\'
  | '"'    => some '"'
  | _      => none

/-- One character of a quoted text. -/
def quoteChar (c : Char) : List Char :=
  match escapeLetter? c with
  | some l => ['\\', l]
  | none =>
      if isShown c then [c]
      else ['\\', 'u', '\x7b'] ++ Nat.toDigits 16 c.toNat ++ ['\x7d']

/-- A text between double quotes. -/
def quoted (text : String) : String :=
  String.ofList ('"' :: text.toList.flatMap quoteChar ++ ['"'])

/-- A text between back quotes, as names are shown in messages. -/
def named (text : String) : String :=
  "`" ++ text ++ "`"

/-- The names that would have been accepted: all of two, or one of several. -/
def alternatives : List String → String
  | []     => "nothing"
  | [a]    => named a
  | [a, b] => named a ++ " or " ++ named b
  | names  => "one of " ++ ", ".intercalate (names.map named)

end BenchSweep.Text
