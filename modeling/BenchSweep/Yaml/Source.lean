/-! # Text with positions

    A YAML stream is read from the front; a mark says how far reading has come.
    Lines and columns count characters from zero, the index counts bytes.  A
    carriage return and a line feed directly after it are one line break.

    A reader is a computation that takes characters off the source and may find
    it malformed. -/

namespace BenchSweep.Yaml

/-- A position in a stream. -/
structure Mark where
  index  : Nat
  line   : Nat
  column : Nat
deriving DecidableEq, Repr, Inhabited

/-- The beginning of a stream. -/
def Mark.origin : Mark := ⟨0, 0, 0⟩

/-- Why a stream is not well-formed, and where that was noticed. -/
structure Malformed where
  problem : String
  mark    : Mark
deriving DecidableEq, Repr

-- ── Characters ────────────────────────────────────────────────────────────

/-- Space or tab. -/
def isSpaceOrTab (c : Char) : Bool := c == ' ' || c == '\t'

/-- A character that ends a line. -/
def isBreak (c : Char) : Bool :=
  c == '\n' || c == '\r' || c == '\u0085' || c == '\u2028' || c == '\u2029'

/-- A character of names: anchors, tag handles, directives. -/
def isWordChar (c : Char) : Bool :=
  c.isAlphanum || c == '_' || c == '-'

/-- A character that may occur in a stream. -/
def isAllowed (c : Char) : Bool :=
  let n := c.toNat
  n == 0x09 || n == 0x0A || n == 0x0D || n == 0x85
    || (0x20 ≤ n && n ≤ 0x7E) || (0xA0 ≤ n && n ≤ 0xFFFD) || 0x10000 ≤ n

/-- The character that marks a byte order; it may stand at the start of a line. -/
def byteOrderMark : Char := '\uFEFF'

-- ── Sources ───────────────────────────────────────────────────────────────

/-- What is left of a stream and where that begins. -/
structure Source where
  rest : List Char
  mark : Mark
deriving DecidableEq

namespace Source

/-- The character `n` places ahead. -/
def at? (s : Source) (n : Nat) : Option Char := s.rest[n]?

/-- Whether the character `n` places ahead satisfies `p`. -/
def sees (s : Source) (n : Nat) (p : Char → Bool) : Bool :=
  (s.at? n).any p

/-- Whether the next character is `c`. -/
def starts (s : Source) (c : Char) : Bool := s.at? 0 == some c

/-- Whether the stream is at its end. -/
def atEnd (s : Source) : Bool := s.rest.isEmpty

/-- Whether there is white space, a line break or nothing `n` places ahead. -/
def gapAt (s : Source) (n : Nat) : Bool :=
  (s.at? n).all fun c => isSpaceOrTab c || isBreak c

/-- Whether there is a line break or nothing next. -/
def lineEnds (s : Source) : Bool :=
  (s.at? 0).all isBreak

/-- Moves past one character of a line. -/
def skip (s : Source) : Source :=
  match s.rest with
  | []     => s
  | c :: r => ⟨r, ⟨s.mark.index + c.utf8Size, s.mark.line, s.mark.column + 1⟩⟩

/-- Moves past `n` characters of a line. -/
def skipMany (s : Source) : Nat → Source
  | 0     => s
  | n + 1 => s.skip.skipMany n

/-- Moves past a line break, if there is one. -/
def skipBreak (s : Source) : Source :=
  match s.rest with
  | '\r' :: '\n' :: r => ⟨r, ⟨s.mark.index + 2, s.mark.line + 1, 0⟩⟩
  | c :: r =>
      if isBreak c then ⟨r, ⟨s.mark.index + c.utf8Size, s.mark.line + 1, 0⟩⟩ else s
  | [] => s

/-- What a line break contributes to a text: the separators of lines and of
    paragraphs stay, every other break is a line feed. -/
def breakText (s : Source) : List Char :=
  match s.rest with
  | []     => []
  | c :: _ => if c == '\u2028' || c == '\u2029' then [c] else if isBreak c then ['\n'] else []

/-- Whether a line begins here with three given characters and a gap. -/
def document (s : Source) (c : Char) : Bool :=
  s.mark.column == 0 && s.rest.take 3 == [c, c, c] && s.gapAt 3

/-- Whether a line begins here with a mark between documents. -/
def betweenDocuments (s : Source) : Bool :=
  s.document '-' || s.document '.'

end Source

-- ── Readers ───────────────────────────────────────────────────────────────

/-- A computation that reads from a source. -/
abbrev Reader := StateT Source (Except Malformed)

namespace Reader

/-- The stream is malformed here. -/
def fail {α : Type} (problem : String) : Reader α := do
  throw ⟨problem, (← get).mark⟩

/-- Takes one character, which must be there. -/
def char : Reader Char := do
  let s ← get
  match s.rest with
  | c :: _ => set s.skip; return c
  | []     => fail "unexpected end of stream"

/-- Moves past one character. -/
def skip : Reader Unit := modify Source.skip

/-- The text of a line break, which is passed. -/
def lineBreak : Reader (List Char) := do
  let s ← get
  set s.skipBreak
  return s.breakText

/-- The longest run of characters that satisfy `p`; none of them may be a line
    break. -/
def run (p : Char → Bool) : Reader (List Char) := do
  let s ← get
  let taken := s.rest.takeWhile p
  set (s.skipMany taken.length)
  return taken

/-- As many repetitions as the source has characters left, and one more. -/
def budget : Reader Nat := do
  return (← get).rest.length + 1

end Reader

end BenchSweep.Yaml
