/-! # Decoding bytes as UTF-8

    Output of benchmark processes and of cut-off writers may hold any bytes.
    Each maximal piece of an ill-formed sequence becomes one replacement
    character; well-formed sequences become their characters. -/

namespace BenchSweep.Text

/-- The character that stands for undecodable bytes. -/
def replacement : Char := '\uFFFD'

/-- A sequence under way: nothing yet, or the value of the bytes so far, how
    many continuation bytes are missing and the range of the next one. -/
inductive Sequence where
  | idle
  | inside (value missing : Nat) (least greatest : UInt8)

namespace Sequence

/-- A byte where a sequence may start. -/
def start (b : UInt8) : List Char × Sequence :=
  if b < 0x80 then ([Char.ofNat b.toNat], .idle)
  else if b < 0xC2 then ([replacement], .idle)
  else if b < 0xE0 then ([], .inside (b.toNat - 0xC0) 1 0x80 0xBF)
  else if b < 0xF0 then
    ([], .inside (b.toNat - 0xE0) 2 (if b = 0xE0 then 0xA0 else 0x80)
      (if b = 0xED then 0x9F else 0xBF))
  else if b < 0xF5 then
    ([], .inside (b.toNat - 0xF0) 3 (if b = 0xF0 then 0x90 else 0x80)
      (if b = 0xF4 then 0x8F else 0xBF))
  else ([replacement], .idle)

/-- The characters that a byte completes, and the sequence after it. -/
def feed (b : UInt8) : Sequence → List Char × Sequence
  | .idle => start b
  | .inside value missing least greatest =>
      if least ≤ b ∧ b ≤ greatest then
        let value := value * 64 + (b.toNat - 0x80)
        if missing ≤ 1 then ([Char.ofNat value], .idle)
        else ([], .inside value (missing - 1) 0x80 0xBF)
      else
        let (chars, next) := start b
        (replacement :: chars, next)

/-- The characters of some bytes after the sequence so far. -/
def decode : Sequence → List UInt8 → List Char
  | .idle, []      => []
  | .inside .., [] => [replacement]
  | s, b :: r      =>
      let (chars, next) := s.feed b
      chars ++ decode next r

end Sequence

/-- The text of some bytes. -/
def decodeUtf8 (bytes : List UInt8) : List Char :=
  Sequence.idle.decode bytes

/-- The text of some bytes that are well-formed throughout: those that its
    characters are written with again. -/
def validUtf8? (bytes : List UInt8) : Option (List Char) :=
  let text := decodeUtf8 bytes
  if (String.ofList text).toUTF8.data.toList = bytes then some text else none

/-- The bytes of a text. -/
def encodeUtf8 (text : String) : List UInt8 :=
  text.toUTF8.data.toList

end BenchSweep.Text
