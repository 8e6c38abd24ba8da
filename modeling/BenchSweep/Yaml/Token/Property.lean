import BenchSweep.Yaml.Token
import BenchSweep.Text.Numeral
import BenchSweep.Text.Utf8

/-! # Names, tags and directives

    The properties that may stand before a node, and the directives that may
    stand before a document. -/

namespace BenchSweep.Yaml

/-- Reads the name of an anchor or an alias after its indicator.  White space or
    one of a few indicators must follow. -/
def readAnchorName : Reader String := do
  Reader.skip
  let name ← Reader.run isWordChar
  let s ← get
  let ended := s.gapAt 0 || s.sees 0 fun c => "?:,]\x7d%@`".toList.contains c
  if name.isEmpty || !ended then
    Reader.fail "did not find expected alphabetic or numeric character"
  return String.ofList name

-- ── Tags ──────────────────────────────────────────────────────────────────

/-- Characters of a tag other than names and escapes; a few more are allowed
    where the tag is delimited. -/
def isTagChar (delimited : Bool) (c : Char) : Bool :=
  isWordChar c || ";/?:@&=+$.!~*'()".toList.contains c
    || (delimited && (c == ',' || c == '[' || c == ']'))

/-- How many bytes the encoding of a character has that begins with a given
    one. -/
def widthFrom? (b : UInt8) : Option Nat :=
  if b < 0x80 then some 1
  else if b < 0xC0 then none
  else if b < 0xE0 then some 2
  else if b < 0xF0 then some 3
  else if b < 0xF8 then some 4
  else none

/-- Reads one escaped byte. -/
def readEscapedByte : Reader UInt8 := do
  let s ← get
  match s.at? 1 |>.bind (Text.digit? 16), s.at? 2 |>.bind (Text.digit? 16) with
  | some hi, some lo =>
      if !s.starts '%' then Reader.fail "did not find URI escaped octet"
      set (s.skipMany 3)
      return UInt8.ofNat (hi * 16 + lo)
  | _, _ => Reader.fail "did not find URI escaped octet"

/-- Reads escaped bytes that continue the encoding of a character. -/
def readContinuation : Nat → Reader (List UInt8)
  | 0 => return []
  | n + 1 => do
      let b ← readEscapedByte
      if b < 0x80 || 0xC0 ≤ b then Reader.fail "found an incorrect trailing UTF-8 octet"
      return b :: (← readContinuation n)

/-- Reads the escaped bytes of one character.  Their number and their class must
    be right; whether they make a character is of no concern. -/
def readEscapedChar : Reader (List UInt8) := do
  let b ← readEscapedByte
  match widthFrom? b with
  | none       => Reader.fail "found an incorrect leading UTF-8 octet"
  | some width => return b :: (← readContinuation (width - 1))

/-- Reads the characters of a tag onto the bytes before them. -/
def readTagFrom (delimited : Bool) : Nat → List UInt8 → Reader (List UInt8)
  | 0, bytes => return bytes
  | n + 1, bytes => do
      let s ← get
      match s.rest with
      | '%' :: _ => readTagFrom delimited n (bytes ++ (← readEscapedChar))
      | c :: _ =>
          if isTagChar delimited c then
            set s.skip
            readTagFrom delimited n (bytes ++ [UInt8.ofNat c.toNat])
          else return bytes
      | [] => return bytes

/-- Reads a tag that continues the text `head`, which counts as its beginning
    without its exclamation mark.  A zero byte ends it. -/
def readTagText (delimited : Bool) (head : String) : Reader Tag := do
  let start := (Tag.ofText head).bytes.drop 1
  let bytes ← readTagFrom delimited (← Reader.budget) start
  if bytes.isEmpty && head.isEmpty then Reader.fail "did not find expected tag URI"
  return (Tag.mk bytes).untilZero

/-- Reads a tag handle: an exclamation mark, a name and perhaps a second mark. -/
def readTagHandle (directive : Bool) : Reader String := do
  if !(← get).starts '!' then Reader.fail "did not find expected '!'"
  Reader.skip
  let name ← Reader.run isWordChar
  if (← get).starts '!' then
    Reader.skip
    return String.ofList ('!' :: name ++ ['!'])
  else if directive && !name.isEmpty then Reader.fail "did not find expected '!'"
  else return String.ofList ('!' :: name)

/-- Reads a tag: a delimited one, one with a handle, or a local one.  The single
    exclamation mark is a tag without handle. -/
def readTag (flow : Bool) : Reader (String × Tag) := do
  let s ← get
  let tag ←
    if s.at? 1 == some '<' then do
      set (s.skipMany 2)
      let suffix ← readTagText true ""
      if !(← get).starts '>' then Reader.fail "did not find the expected '>'"
      Reader.skip
      pure ("", suffix)
    else do
      let handle ← readTagHandle false
      if handle.length ≥ 2 && handle.endsWith "!" then
        pure (handle, ← readTagText false "")
      else
        let suffix ← readTagText false handle
        pure (if suffix.bytes.isEmpty then ("", Tag.ofText "!") else ("!", suffix))
  let s ← get
  if s.gapAt 0 || (flow && s.starts ',') then return tag
  else Reader.fail "did not find expected whitespace or line break"

-- ── Directives ────────────────────────────────────────────────────────────

/-- Reads one of the two numbers of a version, at most nine digits. -/
def readVersionNumber : Reader Nat := do
  let digits ← Reader.run fun c => (Text.digit? 10 c).isSome
  match Text.value? 10 digits with
  | some n =>
      if digits.length ≤ 9 then return n
      else Reader.fail "found extremely long version number"
  | none => Reader.fail "did not find expected version number"

/-- Reads a directive and the rest of its line. -/
def readDirective : Reader TokenKind := do
  Reader.skip
  let name ← Reader.run isWordChar
  if name.isEmpty then Reader.fail "could not find expected directive name"
  if !(← get).gapAt 0 then Reader.fail "found unexpected non-alphabetical character"
  let _ ← Reader.run isSpaceOrTab
  let kind ← match String.ofList name with
    | "YAML" => do
        let major ← readVersionNumber
        if !(← get).starts '.' then Reader.fail "did not find expected digit or '.' character"
        Reader.skip
        pure (TokenKind.version major (← readVersionNumber))
    | "TAG" => do
        let handle ← readTagHandle true
        if !(← get).sees 0 isSpaceOrTab then Reader.fail "did not find expected whitespace"
        let _ ← Reader.run isSpaceOrTab
        let start ← readTagText true ""
        if !(← get).gapAt 0 then Reader.fail "did not find expected whitespace or line break"
        pure (TokenKind.tagHandle handle start)
    | _ => Reader.fail "found unknown directive name"
  let _ ← Reader.run isSpaceOrTab
  if (← get).starts '#' then
    let _ ← Reader.run fun c => !isBreak c
  if !(← get).lineEnds then Reader.fail "did not find expected comment or line break"
  modify Source.skipBreak
  return kind

end BenchSweep.Yaml
