import BenchSweep.Text.Utf8
import BenchSweep.Yaml.Source

/-! # Tokens of YAML

    The lexical units of a stream.  Indentation is made explicit: a block
    collection opens with a start token and closes with `blockEnd`. -/

namespace BenchSweep.Yaml

/-- A tag, or a part of one.  It is kept in bytes, since the escapes in it need not
    make characters. -/
structure Tag where
  bytes : List UInt8
deriving DecidableEq, Repr

namespace Tag

/-- The tag that a text is. -/
def ofText (text : String) : Tag := ⟨Text.encodeUtf8 text⟩

/-- One part after the other. -/
def append (a b : Tag) : Tag := ⟨a.bytes ++ b.bytes⟩

/-- The tag up to its first zero byte, which ends it. -/
def untilZero (t : Tag) : Tag := ⟨t.bytes.takeWhile (· != 0)⟩

/-- A local tag begins with an exclamation mark. -/
def isLocal (t : Tag) : Bool := t.bytes.head? == some 0x21

/-- The name that a local tag gives: what follows its exclamation mark, or this if
    it stands alone.  Bytes that make no text give no name. -/
def localName? (t : Tag) : Option String :=
  match t.bytes with
  | [0x21]    => some "!"
  | 0x21 :: r => (Text.validUtf8? r).map String.ofList
  | _         => none

end Tag

/-- How a scalar is written. -/
inductive Style where
  | plain
  | quoted
  | literal
  | folded
deriving DecidableEq, Repr

/-- The kinds of tokens. -/
inductive TokenKind where
  | streamEnd
  | version (major minor : Nat)
  | tagHandle (handle : String) (start : Tag)
  | documentStart
  | documentEnd
  | blockSequenceStart
  | blockMappingStart
  | blockEnd
  | flowSequenceStart
  | flowSequenceEnd
  | flowMappingStart
  | flowMappingEnd
  | blockEntry
  | flowEntry
  | key
  | value
  | alias (name : String)
  | anchor (name : String)
  | tag (handle : String) (suffix : Tag)
  | scalar (text : String) (style : Style)
deriving DecidableEq, Repr

/-- A token with the marks before and after it. -/
structure Token where
  kind  : TokenKind
  start : Mark
  stop  : Mark
deriving DecidableEq, Repr

end BenchSweep.Yaml
