import BenchSweep.Yaml.Token
import BenchSweep.Text.Numeral

/-! # Scalars

    The text of plain, quoted and block scalars.  A line break inside a plain or
    quoted scalar is folded: one break becomes a space, and of several the first
    one is dropped.  Block scalars keep their breaks or fold them between lines
    that are not indented further. -/

namespace BenchSweep.Yaml

-- ── White space inside plain and quoted scalars ───────────────────────────

/-- White space between two parts of a scalar: blanks before the first break,
    the first break, and the breaks after it. -/
structure Gap where
  blanks : List Char := []
  broken : Bool := false
  first  : List Char := []
  others : List Char := []

/-- What a gap contributes to the text. -/
def Gap.folded (g : Gap) : List Char :=
  if g.broken then
    if g.first == ['\n'] then (if g.others.isEmpty then [' '] else g.others)
    else g.first ++ g.others
  else g.blanks

/-- Reads a gap.  In a scalar that must be indented by `indent` columns no tab
    may stand in the indentation. -/
def readGap (indent : Int) : Nat → Gap → Reader Gap
  | 0, g => return g
  | n + 1, g => do
      let s ← get
      match s.at? 0 with
      | none => return g
      | some c =>
          if isSpaceOrTab c then
            if g.broken && decide ((s.mark.column : Int) < indent) && c == '\t' then
              Reader.fail "found a tab character that violates indentation"
            Reader.skip
            readGap indent n (if g.broken then g else { g with blanks := g.blanks ++ [c] })
          else if isBreak c then
            let text ← Reader.lineBreak
            if g.broken then readGap indent n { g with others := g.others ++ text }
            else readGap indent n { g with blanks := [], broken := true, first := text }
          else return g

-- ── Quoted scalars ────────────────────────────────────────────────────────

/-- The character that a letter after a backslash stands for. -/
def escape? : Char → Option Char
  | '0'  => some '\x00'
  | 'a'  => some '\x07'
  | 'b'  => some '\x08'
  | 't'  => some '\t'
  | '\t' => some '\t'
  | 'n'  => some '\n'
  | 'v'  => some '\x0b'
  | 'f'  => some '\x0c'
  | 'r'  => some '\r'
  | 'e'  => some '\x1b'
  | ' '  => some ' '
  | '"'  => some '"'
  | '/'  => some '/'
  | '\\' => some '\\'
  | 'N'  => some '\u0085'
  | '_'  => some '\u00a0'
  | 'L'  => some '\u2028'
  | 'P'  => some '\u2029'
  | _    => none

/-- How many hexadecimal digits follow a letter after a backslash. -/
def escapeWidth? : Char → Option Nat
  | 'x' => some 2
  | 'u' => some 4
  | 'U' => some 8
  | _   => none

/-- The character of an escape, read after its backslash. -/
def readEscape : Reader Char := do
  let c ← Reader.char
  match escape? c, escapeWidth? c with
  | some d, _ => return d
  | none, some width =>
      let s ← get
      let digits := s.rest.take width
      match Text.value? 16 digits with
      | some n =>
          if digits.length == width && (n < 0xD800 || (0xE000 ≤ n && n < 0x110000)) then
            set (s.skipMany width)
            return Char.ofNat n
          else Reader.fail "found invalid character escape code"
      | none => Reader.fail "did not find expected hexadecimal number"
  | none, none => Reader.fail "found unknown escape character"

/-- Reads a quoted scalar up to white space or its closing quote, onto the text
    `back` (backwards).  Says also whether an escaped line break ended it. -/
def readQuotedPart (quote : Char) : Nat → List Char → Reader (List Char × Bool)
  | 0, back => return (back, false)
  | n + 1, back => do
      let s ← get
      match s.rest with
      | [] => return (back, false)
      | c :: r =>
          if isSpaceOrTab c || isBreak c then return (back, false)
          else if quote == '\'' && c == '\'' && r.head? == some '\'' then
            set (s.skipMany 2)
            readQuotedPart quote n ('\'' :: back)
          else if c == quote then return (back, false)
          else if quote == '"' && c == '\\' then
            set s.skip
            if r.head?.any isBreak then
              modify Source.skipBreak
              return (back, true)
            else
              let d ← readEscape
              readQuotedPart quote n (d :: back)
          else
            set s.skip
            readQuotedPart quote n (c :: back)

/-- Reads a quoted scalar after its opening quote. -/
def readQuotedFrom (quote : Char) : Nat → List Char → Reader (List Char)
  | 0, _ => Reader.fail "found unexpected end of stream"
  | n + 1, back => do
      let s ← get
      if s.betweenDocuments then Reader.fail "found unexpected document indicator"
      if s.atEnd then Reader.fail "found unexpected end of stream"
      let (back, escaped) ← readQuotedPart quote (← Reader.budget) back
      if !escaped && (← get).starts quote then
        Reader.skip
        return back.reverse
      else
        let gap ← readGap (-1) (← Reader.budget) { broken := escaped }
        readQuotedFrom quote n (gap.folded.reverse ++ back)

/-- Reads a quoted scalar. -/
def readQuoted (quote : Char) : Reader (List Char) := do
  Reader.skip
  readQuotedFrom quote (← Reader.budget) []

-- ── Plain scalars ─────────────────────────────────────────────────────────

/-- Characters that separate the items of flow collections. -/
def isFlowIndicator (c : Char) : Bool :=
  c == ',' || c == '[' || c == ']' || c == '\x7b' || c == '\x7d'

/-- The run of a plain scalar up to white space or an indicator that ends it. -/
def readPlainPart (flow : Bool) : Nat → List Char → Reader (List Char)
  | 0, back => return back
  | n + 1, back => do
      let s ← get
      match s.rest with
      | [] => return back
      | c :: _ =>
          if isSpaceOrTab c || isBreak c then return back
          else if flow && c == ':' && s.sees 1 (fun d => isFlowIndicator d || d == '?') then
            Reader.fail "found unexpected ':'"
          else if (c == ':' && s.gapAt 1) || (flow && isFlowIndicator c) then return back
          else
            set s.skip
            readPlainPart flow n (c :: back)

/-- A plain scalar: its text, the mark after its last part, and whether the
    white space after that has a line break. -/
structure Plain where
  text    : List Char
  stop    : Mark
  newline : Bool

/-- Reads a plain scalar from the gap after the text `back` (backwards). -/
def readPlainFrom (flow : Bool) (indent : Int) : Nat → List Char → Gap → Mark → Reader Plain
  | 0, back, gap, stop => return ⟨back.reverse, stop, gap.broken⟩
  | n + 1, back, gap, stop => do
      let s ← get
      if s.betweenDocuments || s.starts '#' then return ⟨back.reverse, stop, gap.broken⟩
      let part ← readPlainPart flow (← Reader.budget) []
      if part.isEmpty then return ⟨back.reverse, stop, gap.broken⟩
      let back := part ++ gap.folded.reverse ++ back
      let stop := (← get).mark
      let gap ← readGap indent (← Reader.budget) {}
      let s ← get
      if gap.blanks.isEmpty && !gap.broken then return ⟨back.reverse, stop, false⟩
      if !flow && decide ((s.mark.column : Int) < indent) then
        return ⟨back.reverse, stop, gap.broken⟩
      readPlainFrom flow indent n back gap stop

/-- Reads a plain scalar that must be indented by `indent` columns. -/
def readPlain (flow : Bool) (indent : Int) : Reader Plain := do
  readPlainFrom flow indent (← Reader.budget) [] {} (← get).mark

-- ── Block scalars ─────────────────────────────────────────────────────────

/-- What happens to the line breaks at the end of a block scalar. -/
inductive Chomping where
  | strip
  | clip
  | keep
deriving DecidableEq

/-- The chomping indicator, if there is one. -/
def readChomping? : Reader (Option Chomping) := do
  let s ← get
  if s.starts '+' then Reader.skip; return some .keep
  else if s.starts '-' then Reader.skip; return some .strip
  else return none

/-- The indentation indicator, if there is one; it cannot be zero. -/
def readIncrement? : Reader (Option Nat) := do
  match ((← get).at? 0).bind (Text.digit? 10) with
  | none => return none
  | some n =>
      if n == 0 then Reader.fail "found an indentation indicator equal to 0"
      Reader.skip
      return some n

/-- The indicators of a block scalar, in either order. -/
def readBlockIndicators : Reader (Chomping × Option Nat) := do
  match ← readChomping? with
  | some chomping => return (chomping, ← readIncrement?)
  | none =>
      let increment ← readIncrement?
      if increment.isSome then return ((← readChomping?).getD .clip, increment)
      else return (.clip, none)

/-- Moves past blanks, a comment and the line break after them. -/
def readRestOfLine : Reader Unit := do
  let _ ← Reader.run isSpaceOrTab
  if (← get).starts '#' then
    let _ ← Reader.run fun c => !isBreak c
  if !(← get).lineEnds then Reader.fail "did not find expected comment or line break"
  modify Source.skipBreak

/-- Moves past indentation and empty lines.  Yields the text of their breaks
    and the widest indentation met. -/
def readEmptyLines (indent : Nat) : Nat → List Char → Nat → Reader (List Char × Nat)
  | 0, breaks, widest => return (breaks, widest)
  | n + 1, breaks, widest => do
      let s ← get
      let spaces := (s.rest.takeWhile (· == ' ')).length
      let spaces := if indent == 0 then spaces else min spaces (indent - s.mark.column)
      set (s.skipMany spaces)
      let s ← get
      let widest := max widest s.mark.column
      if (indent == 0 || s.mark.column < indent) && s.starts '\t' then
        Reader.fail "found a tab character where an indentation space is expected"
      if s.sees 0 isBreak then
        let text ← Reader.lineBreak
        readEmptyLines indent n (breaks ++ text) widest
      else return (breaks, widest)

/-- Reads the lines of a block scalar.  `pending` is the break after the last
    line, `breaks` are those of empty lines after it; `indented` says whether
    the last line began with white space. -/
def readBlockLines (folded : Bool) (indent : Nat) :
    Nat → List Char → List Char → List Char → Bool → Reader (List Char × List Char × List Char)
  | 0, back, pending, breaks, _ => return (back, pending, breaks)
  | n + 1, back, pending, breaks, indented => do
      let s ← get
      if s.mark.column != indent || s.atEnd then return (back, pending, breaks)
      let further := s.sees 0 isSpaceOrTab
      let joint :=
        if folded && pending == ['\n'] && !indented && !further then
          (if breaks.isEmpty then [' '] else [])
        else pending
      let line ← Reader.run fun c => !isBreak c
      let back := line.reverse ++ breaks.reverse ++ joint.reverse ++ back
      let pending ← Reader.lineBreak
      let (breaks, _) ← readEmptyLines indent (← Reader.budget) [] 0
      readBlockLines folded indent n back pending breaks further

/-- Reads a block scalar inside of a collection at column `parent`. -/
def readBlock (folded : Bool) (parent : Int) : Reader (List Char) := do
  Reader.skip
  let (chomping, increment) ← readBlockIndicators
  readRestOfLine
  let fixed := match increment with
    | some k => k + parent.toNat
    | none   => 0
  let (breaks, widest) ← readEmptyLines fixed (← Reader.budget) [] 0
  let indent := if fixed == 0 then max widest (max (parent + 1).toNat 1) else fixed
  let (back, pending, breaks) ←
    readBlockLines folded indent (← Reader.budget) [] [] breaks false
  return back.reverse
    ++ (if chomping = .strip then [] else pending)
    ++ (if chomping = .keep then breaks else [])

end BenchSweep.Yaml
