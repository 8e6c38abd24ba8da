import BenchSweep.Yaml.Token.Scalar
import BenchSweep.Yaml.Token.Property

/-! # From text to tokens

    Tokens are found one after the other.  Two things make this more than a walk
    over the text:

    * **indentation** — in block context a line that begins further to the left
      closes collections, and a collection's first entry opens it;
    * **implicit keys** — that a node is a mapping key shows only at the colon
      after it, so its place is remembered and the key token is put there later.
      Such a key ends on its line, and within 1024 bytes. -/

namespace BenchSweep.Yaml

/-- A node that may turn out to be a mapping key: where it begins, how many
    tokens precede it, and whether nothing else can stand in its place. -/
structure KeyCandidate where
  required : Bool
  number   : Nat
  mark     : Mark

/-- What is known while tokens are found.  `candidates` has an entry for the
    block context and one for each flow collection that is open, innermost
    first. -/
structure Scanner where
  source     : Source
  tokens     : Array Token
  indent     : Int
  outer      : List Int
  candidates : List (Option KeyCandidate)
  keyAllowed : Bool

/-- A computation that finds tokens. -/
abbrev Scan := StateT Scanner (Except Malformed)

namespace Scan

/-- How many flow collections are open. -/
def flowDepth : Scan Nat := do
  return (← get).candidates.length - 1

/-- The stream is malformed here. -/
def fail {α : Type} (problem : String) : Scan α := do
  throw ⟨problem, (← get).source.mark⟩

/-- Runs a reader on the source. -/
def read {α : Type} (r : Reader α) : Scan α := do
  let s ← get
  let (a, source) ← r s.source
  set { s with source }
  return a

/-- The present mark. -/
def mark : Scan Mark := do
  return (← get).source.mark

/-- Adds a token at the end. -/
def add (kind : TokenKind) (start stop : Mark) : Scan Unit :=
  modify fun s => { s with tokens := s.tokens.push ⟨kind, start, stop⟩ }

/-- Allows or forbids an implicit key next. -/
def allowKey (allowed : Bool) : Scan Unit :=
  modify fun s => { s with keyAllowed := allowed }

/-- Replaces the innermost key candidate. -/
def setCandidate (c : Option KeyCandidate) : Scan Unit :=
  modify fun s => { s with candidates := c :: s.candidates.tail }

-- ── Indentation ───────────────────────────────────────────────────────────

/-- Opens a block collection at `column` unless one of that indentation is
    open.  Its start token comes before the tokens from number `at?` on. -/
def openBlock (column : Nat) (number? : Option Nat) (kind : TokenKind) (mark : Mark) :
    Scan Unit := do
  let s ← get
  if (← flowDepth) == 0 && s.indent < column then
    let token : Token := ⟨kind, mark, mark⟩
    let tokens := match number? with
      | some n => s.tokens.insertIdx! n token
      | none   => s.tokens.push token
    set { s with tokens, indent := column, outer := s.indent :: s.outer }

/-- Closes block collections that are indented further than `column`. -/
def closeBlocksFrom (column : Int) : List Int → Scan Unit
  | [] => return
  | i :: outer => do
      let s ← get
      if column < s.indent then
        add .blockEnd s.source.mark s.source.mark
        modify fun s => { s with indent := i, outer }
        closeBlocksFrom column outer

/-- Closes block collections that are indented further than `column`; inside of
    flow collections indentation does not count. -/
def closeBlocks (column : Int) : Scan Unit := do
  if (← flowDepth) == 0 then closeBlocksFrom column (← get).outer

-- ── Implicit keys ─────────────────────────────────────────────────────────

/-- Gives up the innermost key candidate, which must not be required. -/
def dropCandidate : Scan Unit := do
  match (← get).candidates.head?.join with
  | some c => if c.required then fail "could not find expected ':'"
  | none   => pure ()
  setCandidate none

/-- Remembers that a key may begin here. -/
def saveCandidate : Scan Unit := do
  let s ← get
  if s.keyAllowed then
    dropCandidate
    setCandidate (some
      { required := s.candidates.length == 1 && s.indent == s.source.mark.column
        number := s.tokens.size
        mark := s.source.mark })

/-- Gives up key candidates that began on an earlier line or too far back. -/
def dropStale : Scan Unit := do
  let s ← get
  let stale (c : KeyCandidate) : Bool :=
    c.mark.line < s.source.mark.line || c.mark.index + 1024 < s.source.mark.index
  if s.candidates.any (Option.any fun c => stale c && c.required) then
    fail "could not find expected ':'"
  set { s with candidates := s.candidates.map (Option.filter fun c => !stale c) }

-- ── Tokens ────────────────────────────────────────────────────────────────

/-- Adds a token of `width` characters. -/
def indicator (kind : TokenKind) (width : Nat) : Scan Unit := do
  let start ← mark
  modify fun s => { s with source := s.source.skipMany width }
  add kind start (← mark)

/-- A mark between documents, or the end of the stream, closes everything. -/
def closeAll : Scan Unit := do
  closeBlocks (-1)
  dropCandidate
  allowKey false

/-- The start of a flow collection. -/
def flowStart (kind : TokenKind) : Scan Unit := do
  saveCandidate
  modify fun s => { s with candidates := none :: s.candidates }
  allowKey true
  indicator kind 1

/-- The end of a flow collection. -/
def flowEnd (kind : TokenKind) : Scan Unit := do
  dropCandidate
  if (← flowDepth) != 0 then
    modify fun s => { s with candidates := s.candidates.tail }
  allowKey false
  indicator kind 1

/-- The comma between entries of a flow collection. -/
def flowEntry : Scan Unit := do
  dropCandidate
  allowKey true
  indicator .flowEntry 1

/-- The dash before an entry of a block sequence. -/
def blockEntry : Scan Unit := do
  let s ← get
  if (← flowDepth) == 0 then
    if !s.keyAllowed then fail "block sequence entries are not allowed in this context"
    openBlock s.source.mark.column none .blockSequenceStart s.source.mark
  dropCandidate
  allowKey true
  indicator .blockEntry 1

/-- The question mark before an explicit key. -/
def explicitKey : Scan Unit := do
  let s ← get
  let block := (← flowDepth) == 0
  if block then
    if !s.keyAllowed then fail "mapping keys are not allowed in this context"
    openBlock s.source.mark.column none .blockMappingStart s.source.mark
  dropCandidate
  allowKey block
  indicator .key 1

/-- The colon before a value; a key candidate becomes a key. -/
def value : Scan Unit := do
  let s ← get
  match s.candidates.head?.join with
  | some c =>
      set { s with tokens := s.tokens.insertIdx! c.number ⟨.key, c.mark, c.mark⟩ }
      openBlock c.mark.column (some c.number) .blockMappingStart c.mark
      setCandidate none
      allowKey false
  | none =>
      let block := (← flowDepth) == 0
      if block then
        if !s.keyAllowed then fail "mapping values are not allowed in this context"
        openBlock s.source.mark.column none .blockMappingStart s.source.mark
      allowKey block
  indicator .value 1

/-- A token that a reader finds and that may begin a key. -/
def property (r : Reader TokenKind) : Scan Unit := do
  saveCandidate
  allowKey false
  let start ← mark
  let kind ← read r
  add kind start (← mark)

/-- A block scalar. -/
def blockScalar (style : Style) : Scan Unit := do
  dropCandidate
  allowKey true
  let start ← mark
  let parent := (← get).indent
  let text ← read (readBlock (decide (style = .folded)) parent)
  add (.scalar (String.ofList text) style) start (← mark)

/-- A plain scalar.  A line break after it lets a key follow. -/
def plainScalar : Scan Unit := do
  saveCandidate
  allowKey false
  let start ← mark
  let s ← get
  let plain ← read (readPlain ((← flowDepth) != 0) (s.indent + 1))
  if plain.newline then allowKey true
  add (.scalar (String.ofList plain.text) .plain) start plain.stop

/-- A directive. -/
def directive : Scan Unit := do
  closeAll
  let start ← mark
  let kind ← read readDirective
  add kind start (← mark)

/-- Moves past white space, comments and line breaks, and past a mark of the byte
    order at the start of a line.  Where a key may begin in block context a tab
    is no white space. -/
def skipToToken : Nat → Scan Unit
  | 0 => return
  | n + 1 => do
      let s ← get
      let tabs := s.candidates.length != 1 || !s.keyAllowed
      if s.source.mark.column == 0 && s.source.starts byteOrderMark then read Reader.skip
      let _ ← read (Reader.run fun c => c == ' ' || (tabs && c == '\t'))
      if (← get).source.starts '#' then
        let _ ← read (Reader.run fun c => !isBreak c)
      if (← get).source.sees 0 isBreak then
        modify fun s => { s with source := s.source.skipBreak }
        if (← flowDepth) == 0 then allowKey true
        skipToToken n

/-- Whether a plain scalar may begin here. -/
def startsPlain (s : Source) (flow : Bool) : Bool :=
  match s.at? 0 with
  | none => false
  | some c =>
      !(isSpaceOrTab c || isBreak c || "-?:,[]\x7b\x7d#&*!|>'\"%@`".toList.contains c)
        || (c == '-' && !s.sees 1 isSpaceOrTab)
        || (!flow && (c == '?' || c == ':') && !s.gapAt 1)

/-- Finds the next token, or the end of the stream. -/
def token : Scan Bool := do
  skipToToken ((← get).source.rest.length + 1)
  dropStale
  closeBlocks (← mark).column
  let s := (← get).source
  let flow := (← flowDepth) != 0
  match s.at? 0 with
  | none =>
      if s.mark.column != 0 then
        modify fun t => { t with source := ⟨[], ⟨s.mark.index, s.mark.line + 1, 0⟩⟩ }
      closeAll
      add .streamEnd (← mark) (← mark)
      return false
  | some c =>
      if c == '%' && s.mark.column == 0 then directive
      else if s.document '-' then closeAll; indicator .documentStart 3
      else if s.document '.' then closeAll; indicator .documentEnd 3
      else if c == '[' then flowStart .flowSequenceStart
      else if c == '\x7b' then flowStart .flowMappingStart
      else if c == ']' then flowEnd .flowSequenceEnd
      else if c == '\x7d' then flowEnd .flowMappingEnd
      else if c == ',' then flowEntry
      else if c == '-' && s.gapAt 1 then blockEntry
      else if c == '?' && (flow || s.gapAt 1) then explicitKey
      else if c == ':' && (flow || s.gapAt 1) then value
      else if c == '*' then property (return .alias (← readAnchorName))
      else if c == '&' then property (return .anchor (← readAnchorName))
      else if c == '!' then property (do let (h, t) ← readTag flow; return .tag h t)
      else if c == '|' && !flow then blockScalar .literal
      else if c == '>' && !flow then blockScalar .folded
      else if c == '\'' || c == '"' then
        property (return .scalar (String.ofList (← readQuoted c)) .quoted)
      else if startsPlain s flow then plainScalar
      else fail "found character that cannot start any token"
      return true

/-- Finds all tokens, given more rounds than there are tokens. -/
def all : Nat → Scan Unit
  | 0 => fail "found unexpected end of stream"
  | n + 1 => do
      if ← token then all n

end Scan

/-- **ALL TOKENS** of a stream.  Characters that may not occur in a stream are
    refused. -/
def tokens (text : List Char) : Except Malformed (List Token) := do
  if !text.all isAllowed then
    throw ⟨"control characters are not allowed", .origin⟩
  let start : Scanner :=
    { source := ⟨text, .origin⟩, tokens := #[], indent := -1, outer := [],
      candidates := [none], keyAllowed := true }
  let ((), s) ← (Scan.all (text.length + 2)).run start
  return s.tokens.toList

end BenchSweep.Yaml
