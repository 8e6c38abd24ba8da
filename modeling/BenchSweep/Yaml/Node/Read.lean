import BenchSweep.Yaml.Node
import BenchSweep.Yaml.Token.Scan

/-! # From tokens to trees

    One function per kind of collection follows the grammar of the token
    sequence.  A node that is left out, such as the value after a lone key,
    is a plain scalar without text; its mark is where it would have begun.

    Main function: `Document.read`. -/

namespace BenchSweep.Yaml

/-- What is known while a stream's tokens are turned into trees: the tokens
    left, the tag handles in force, and the anchors met. -/
structure Reading where
  tokens   : List Token
  handles  : List (String × Tag)
  names    : List (String × Nat)
  anchored : List Anchored
  count    : Nat

/-- A computation that reads tokens. -/
abbrev Parse := StateT Reading (Except Malformed)

namespace Parse

/-- The next token.  There always is one: the end of the stream is never taken
    off. -/
def peek : Parse Token := do
  match (← get).tokens with
  | t :: _ => return t
  | []     => return ⟨.streamEnd, .origin, .origin⟩

/-- Takes the next token off. -/
def skip : Parse Unit :=
  modify fun s => { s with tokens := s.tokens.tail }

/-- The kind of the next token. -/
def kind : Parse TokenKind := do
  return (← peek).kind

/-- The stream is malformed at the next token. -/
def fail {α : Type} (problem : String) : Parse α := do
  throw ⟨problem, (← peek).start⟩

/-- Takes the next token off if it has a given kind. -/
def accept (k : TokenKind) : Parse Bool := do
  if (← kind) = k then skip; return true
  else return false

/-- A node that is left out. -/
def absent (mark : Mark) : Node := .scalar mark none .plain ""

-- ── Properties of nodes ───────────────────────────────────────────────────

/-- Gives a name to the node that follows.  A new name gets the number of names
    so far; so does a name that is given again. -/
def bind (name : String) : Parse (Nat × Nat) := do
  let s ← get
  let target := s.names.length
  let names := (name, target) :: s.names.filter fun n => n.1 != name
  set { s with names, count := s.count + 1 }
  return (target, s.count)

/-- The whole tag that a handle and a suffix make. -/
def resolveTag (handle : String) (suffix : Tag) : Parse Tag := do
  if handle.isEmpty then return suffix
  match (← get).handles.find? fun h => h.1 == handle with
  | some h => return h.2.append suffix
  | none   => fail "found undefined tag handle"

/-- The anchor and tag before a node, in either order, and the mark where they
    begin. -/
structure Properties where
  mark    : Mark
  anchor? : Option String := none
  tag?    : Option Tag := none

/-- Reads an anchor, if one is next. -/
def anchor? : Parse (Option String) := do
  match ← kind with
  | .anchor name => skip; return some name
  | _            => return none

/-- Reads a tag, if one is next. -/
def tag? : Parse (Option (String × Tag)) := do
  match ← kind with
  | .tag handle suffix => skip; return some (handle, suffix)
  | _                  => return none

/-- Reads the properties of a node. -/
def properties : Parse Properties := do
  let mark := (← peek).start
  let first? ← anchor?
  let parts? ← tag?
  let anchor? ← match first?, parts? with
    | none, some _ => anchor?
    | a?, _        => pure a?
  match parts? with
  | some (handle, suffix) => return { mark, anchor?, tag? := some (← resolveTag handle suffix) }
  | none                  => return { mark, anchor? }

/-- Reads a scalar, or leaves the node out. -/
def leaf (p : Properties) : Parse Node := do
  match ← kind with
  | .scalar text style =>
      skip
      return .scalar p.mark p.tag? style text
  | _ =>
      if p.anchor?.isSome || p.tag?.isSome then
        return .scalar p.mark p.tag? .plain ""
      else fail "did not find expected node content"

-- ── Nodes ─────────────────────────────────────────────────────────────────

/-- Whether a token ends an entry of a block collection that is left out. -/
def endsEntry (inMapping : Bool) : TokenKind → Bool
  | .blockEntry => !inMapping
  | .key        => inMapping
  | .value      => inMapping
  | .blockEnd   => true
  | _           => false

mutual

/-- A node.  Block collections are possible only in block context, and in a
    mapping a sequence need not be indented further. -/
def node (fuel : Nat) (block inMapping : Bool) : Parse Node :=
  match fuel with
  | 0 => fail "found unexpected end of stream"
  | n + 1 => do
      match ← kind with
      | .alias name => do
          let mark := (← peek).start
          skip
          match (← get).names.find? fun a => a.1 == name with
          | some a => return .alias mark a.2
          | none   => throw ⟨"unknown anchor", mark⟩
      | _ => do
          let p ← properties
          let bound? ← match p.anchor? with
            | some name => do pure (some (← bind name))
            | none      => pure none
          let result ← match ← kind with
            | .blockEntry =>
                if inMapping then do
                  let items ← indentless n
                  pure (.sequence p.mark p.tag? items)
                else leaf p
            | .flowSequenceStart => do
                skip
                let items ← flowItems n true
                pure (.sequence p.mark p.tag? items)
            | .flowMappingStart => do
                skip
                let entries ← flowEntries n true
                pure (.mapping p.mark p.tag? entries)
            | .blockSequenceStart =>
                if block then do
                  skip
                  let items ← blockItems n
                  pure (.sequence p.mark p.tag? items)
                else leaf p
            | .blockMappingStart =>
                if block then do
                  skip
                  let entries ← blockEntries n
                  pure (.mapping p.mark p.tag? entries)
                else leaf p
            | _ => leaf p
          match bound? with
          | some (target, order) =>
              modify fun s => { s with anchored := ⟨target, order, result⟩ :: s.anchored }
          | none => pure ()
          return result

/-- An entry of a block collection, which may be left out after `mark`. -/
def blockEntryNode (fuel : Nat) (inMapping : Bool) (mark : Mark) : Parse Node :=
  match fuel with
  | 0 => fail "found unexpected end of stream"
  | n + 1 => do
      if endsEntry inMapping (← kind) then return absent mark
      else node n true inMapping

/-- The items of a block sequence. -/
def blockItems (fuel : Nat) : Parse (List Node) :=
  match fuel with
  | 0 => fail "found unexpected end of stream"
  | n + 1 => do
      let t ← peek
      match t.kind with
      | .blockEntry => do
          skip
          let item ← blockEntryNode n false t.stop
          return item :: (← blockItems n)
      | .blockEnd => skip; return []
      | _ => fail "did not find expected '-' indicator"

/-- The items of a sequence that is not indented further than the mapping it is
    in. -/
def indentless (fuel : Nat) : Parse (List Node) :=
  match fuel with
  | 0 => fail "found unexpected end of stream"
  | n + 1 => do
      let t ← peek
      match t.kind with
      | .blockEntry => do
          skip
          let item ←
            match ← kind with
            | .blockEntry => pure (absent t.stop)
            | .key        => pure (absent t.stop)
            | .value      => pure (absent t.stop)
            | .blockEnd   => pure (absent t.stop)
            | _           => node n true false
          return item :: (← indentless n)
      | _ => return []

/-- The entries of a block mapping. -/
def blockEntries (fuel : Nat) : Parse (List (Node × Node)) :=
  match fuel with
  | 0 => fail "found unexpected end of stream"
  | n + 1 => do
      let t ← peek
      match t.kind with
      | .key => do
          skip
          let key ← blockEntryNode n true t.stop
          let value ← blockValue n
          return (key, value) :: (← blockEntries n)
      | .blockEnd => skip; return []
      | _ => fail "did not find expected key"

/-- The value of a key in a block mapping. -/
def blockValue (fuel : Nat) : Parse Node :=
  match fuel with
  | 0 => fail "found unexpected end of stream"
  | n + 1 => do
      let t ← peek
      match t.kind with
      | .value => skip; blockEntryNode n true t.stop
      | _      => return absent t.start

/-- The items of a flow sequence; a key in it makes a mapping of one entry. -/
def flowItems (fuel : Nat) (first : Bool) : Parse (List Node) :=
  match fuel with
  | 0 => fail "found unexpected end of stream"
  | n + 1 => do
      if ← accept .flowSequenceEnd then return []
      if !first then
        if !(← accept .flowEntry) then fail "did not find expected ',' or ']'"
      let t ← peek
      match t.kind with
      | .flowSequenceEnd => skip; return []
      | .key => do
          skip
          let entry ← flowPair n
          return .mapping t.start none [entry] :: (← flowItems n false)
      | _ => do
          let item ← node n false false
          return item :: (← flowItems n false)

/-- The one entry of a mapping inside a flow sequence. -/
def flowPair (fuel : Nat) : Parse (Node × Node) :=
  match fuel with
  | 0 => fail "found unexpected end of stream"
  | n + 1 => do
      let t ← peek
      let key ←
        match t.kind with
        | .value           => skip; pure (absent t.stop)
        | .flowEntry       => skip; pure (absent t.stop)
        | .flowSequenceEnd => skip; pure (absent t.stop)
        | _                => node n false false
      if ← accept .value then
        let t ← peek
        match t.kind with
        | .flowEntry       => return (key, absent t.start)
        | .flowSequenceEnd => return (key, absent t.start)
        | _                => return (key, ← node n false false)
      else return (key, absent (← peek).start)

/-- The entries of a flow mapping. -/
def flowEntries (fuel : Nat) (first : Bool) : Parse (List (Node × Node)) :=
  match fuel with
  | 0 => fail "found unexpected end of stream"
  | n + 1 => do
      if ← accept .flowMappingEnd then return []
      if !first then
        if !(← accept .flowEntry) then fail "did not find expected ',' or '\x7d'"
      match ← kind with
      | .flowMappingEnd => skip; return []
      | .key => do
          skip
          let t ← peek
          let key ←
            match t.kind with
            | .value          => pure (absent t.start)
            | .flowEntry      => pure (absent t.start)
            | .flowMappingEnd => pure (absent t.start)
            | _               => node n false false
          let value ← flowValue n
          return (key, value) :: (← flowEntries n false)
      | _ => do
          let key ← node n false false
          return (key, absent (← peek).start) :: (← flowEntries n false)

/-- The value of a key in a flow mapping. -/
def flowValue (fuel : Nat) : Parse Node :=
  match fuel with
  | 0 => fail "found unexpected end of stream"
  | n + 1 => do
      if ← accept .value then
        let t ← peek
        match t.kind with
        | .flowEntry      => return absent t.start
        | .flowMappingEnd => return absent t.start
        | _               => node n false false
      else return absent (← peek).start

end

-- ── Documents ─────────────────────────────────────────────────────────────

/-- The tag handles that every document has. -/
def standardHandles : List (String × Tag) :=
  [("!", Tag.ofText "!"), ("!!", Tag.ofText "tag:yaml.org,2002:")]

/-- Reads the directives before a document. -/
def directives : Nat → Bool → List (String × Tag) → Parse (List (String × Tag))
  | 0, _, handles => return handles
  | n + 1, versioned, handles => do
      match ← kind with
      | .version major minor =>
          if versioned then fail "found duplicate %YAML directive"
          if major != 1 || (minor != 1 && minor != 2) then
            fail "found incompatible YAML document"
          skip
          directives n true handles
      | .tagHandle handle start =>
          if handles.any fun h => h.1 == handle then fail "found duplicate %TAG directive"
          skip
          directives n versioned (handles ++ [(handle, start)])
      | _ => return handles

/-- Whether a document has no content, which its explicit start makes possible. -/
def endsDocument : TokenKind → Bool
  | .version ..     => true
  | .tagHandle ..   => true
  | .documentStart  => true
  | .documentEnd    => true
  | .streamEnd      => true
  | _               => false

/-- Takes off all marks that end a document. -/
def skipEnds : Nat → Parse Unit
  | 0 => return
  | n + 1 => do
      if ← accept .documentEnd then skipEnds n

/-- Reads one document, if there is one.  Only the first document of a stream
    may begin without a mark. -/
def document (fuel : Nat) (first : Bool) : Parse (Option Node) := do
  if !first then skipEnds fuel
  match ← kind with
  | .streamEnd => return none
  | k =>
      if first && !endsDocument k || first && k == .documentEnd then
        modify fun s => { s with handles := standardHandles }
        let root ← node fuel true false
        let _ ← accept .documentEnd
        return some root
      else
        let handles ← directives fuel false []
        if !(← accept .documentStart) then fail "did not find expected <document start>"
        modify fun s => { s with handles := handles ++ standardHandles }
        let t ← peek
        let root ← if endsDocument t.kind then pure (absent t.start) else node fuel true false
        let _ ← accept .documentEnd
        return some root

/-- Reads a stream of at most one document. -/
def stream (fuel : Nat) : Parse Document := do
  let root? ← document fuel true
  let anchored := (← get).anchored
  if root?.isSome && (← document fuel false).isSome then
    fail "deserializing from YAML containing more than one document is not supported"
  return { root?, anchored }

end Parse

/-- **THE DOCUMENT** of a stream: its text must be well-formed throughout, and
    hold no second document. -/
def Document.read (text : List Char) : Except Malformed Document := do
  let tokens ← tokens text
  let start : Reading := { tokens, handles := [], names := [], anchored := [], count := 0 }
  let (document, _) ← (Parse.stream (4 * tokens.length + 8)).run start
  return document

end BenchSweep.Yaml
