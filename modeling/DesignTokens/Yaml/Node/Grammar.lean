import DesignTokens.Yaml.Node.Basic
import DesignTokens.Yaml.Token.Stream

/-!
# From tokens to nodes

The grammar of documents: blocks, flow collections between brackets, properties of nodes, and what
is left out and stands for an empty scalar.

## Main Definitions

* `Reader` — the tokens that are left and what is known
* `readNode` — a node of any kind
* `Document`, `documentOf` — the one document of a source, if it holds one

## Design Notes

The functions take turns and use up tokens, or steps that no token pays for; four steps a token are
more than enough. A stream that ends with a fault passes it on to whoever needs a token beyond it.
-/

namespace DesignTokens.Yaml

/-- The tokens that are left and what is known. -/
structure Reader where
  /-- The tokens that are left. -/
  rest : List Token
  /-- Why there are no more tokens behind them. -/
  fault : Option Fault
  /-- The handles for tags. -/
  handles : List (String × String)
  /-- The numbers of the nodes with anchors, latest first. -/
  anchors : List (String × Nat)
  /-- The nodes that were read, or are being read. -/
  nodes : Graph

/-- Reading that may fail. -/
abbrev Read := StateT Reader (Except Fault)

namespace Read

/-- Gives up. -/
def fail {α : Type} : Read α := throw .malformed

/-- The next token, which is left where it is; none at the end of the stream. -/
def peek : Read (Option Token) := do
  let s ← get
  match s.rest, s.fault with
  | t :: _, _ => pure (some t)
  | [], some fault => throw fault
  | [], none => pure none

/-- Drops the next token. -/
def skip : Read PUnit := modify fun s => { s with rest := s.rest.tail }

/-- Whether the next token is a given one. -/
def sees (t : Token) : Read Bool := do pure ((← peek) == some t)

/-- Whether the next token is one of some. -/
def seesAny (ts : List Token) : Read Bool := do pure ((← peek).any (ts.contains ·))

/-- A token that has to be there. -/
def expect (t : Token) : Read PUnit := do
  if ← sees t then skip else fail

/-- Drops the next token if it is a given one, and tells whether it was. -/
def accept (t : Token) : Read Bool := do
  if ← sees t then
    skip
    pure true
  else pure false

/-- Adds a node, which may have an anchor, and tells its number. -/
def add (anchor : Option String) (node : Node) : Read Nat := do
  let number := (← get).nodes.size
  modify fun s =>
    { s with
      nodes := s.nodes.push node
      anchors := (anchor.toList.map fun name => (name, number)) ++ s.anchors }
  pure number

/-- Adds a collection, which can be referred to while it is being read. -/
def collect (anchor : Option String) (tag : Tag) (read : Read Content) : Read Nat := do
  let number ← add anchor ⟨tag, .sequence []⟩
  let content ← read
  modify fun s => { s with nodes := s.nodes.hold number content }
  pure number

/-- The full tag of a node, if it has one. -/
def fullTag : Option (Option String × String) → Read (Option String)
  | none => pure none
  | some (none, suffix) => pure (some suffix)
  | some (some handle, suffix) => do
    match (← get).handles.lookup handle with
    | some expansion => pure (some (expansion ++ suffix))
    | none => fail

end Read

/-- The tag of a scalar: the one it has, or else one by its form if it is plain or told to be taken
for plain. -/
def scalarTag (full : Option String) (plain : Bool) (text : String) : Tag :=
  match full with
  | none => if plain then Tag.ofPlain text else .str
  | some "!" => Tag.ofPlain text
  | some name => Tag.ofName name

/-- The tag of a collection: the one it has, or else the usual one. -/
def collectionTag (full : Option String) (usual : Tag) : Tag :=
  match full with
  | none | some "!" => usual
  | some name => Tag.ofName name

/-- Adds what stands where nothing is written. -/
def readAbsent : Read Nat := Read.add none .absent

/-- The properties in front of a node: an anchor and a tag, in either order. -/
def readProperties : Read (Option String × Option (Option String × String)) := do
  match ← Read.peek with
  | some (.anchor given) =>
    Read.skip
    match ← Read.peek with
    | some (.tag handle suffix) =>
      Read.skip
      pure (some given, some (handle, suffix))
    | _ => pure (some given, none)
  | some (.tag handle suffix) =>
    Read.skip
    match ← Read.peek with
    | some (.anchor given) =>
      Read.skip
      pure (some given, some (handle, suffix))
    | _ => pure (none, some (handle, suffix))
  | _ => pure (none, none)

/-- The node that an anchor's name stands for. -/
def readReference (given : String) : Read Nat := do
  Read.skip
  match (← get).anchors.lookup given with
  | some number => pure number
  | none => Read.fail

mutual

/-- A node. In a block it may be a block collection, and as the value of a mapping a sequence whose
entries are not indented. -/
def readNode (fuel : Nat) (block indentless : Bool) : Read Nat :=
  match fuel with
  | 0 => Read.fail
  | fuel + 1 => do
    match ← Read.peek with
    | some (.reference given) => readReference given
    | _ => do
      let (anchor, property) ← readProperties
      let full ← Read.fullTag property
      let next ← Read.peek
      let known := (← get).anchors
      if anchor.any fun given => (known.lookup given).isSome then Read.fail
      let sequence := fun (items : Read (List Nat)) =>
        Read.collect anchor (collectionTag full .seq) (Content.sequence <$> items)
      let mapping := fun (entries : Read (List (Nat × Nat))) =>
        Read.collect anchor (collectionTag full .map) (Content.mapping <$> entries)
      match next with
      | some (.scalar plain text) => do
        Read.skip
        Read.add anchor ⟨scalarTag full plain text, .scalar text⟩
      | some .flowSequenceStart => do
        Read.skip
        sequence (readFlowItems fuel true)
      | some .flowMappingStart => do
        Read.skip
        mapping (readFlowEntries fuel true)
      | next =>
        if indentless && next == some .blockEntry then sequence (readIndentlessItems fuel)
        else if block && next == some .blockSequenceStart then do
          Read.skip
          sequence (readBlockItems fuel)
        else if block && next == some .blockMappingStart then do
          Read.skip
          mapping (readBlockEntries fuel)
        else if anchor.isSome || full.isSome then Read.add anchor ⟨scalarTag full true "", .scalar ""⟩
        else Read.fail

/-- The items of a block sequence. -/
def readBlockItems (fuel : Nat) : Read (List Nat) :=
  match fuel with
  | 0 => Read.fail
  | fuel + 1 => do
    if ← Read.accept .blockEntry then
      let item ←
        if ← Read.seesAny [.blockEntry, .blockEnd] then readAbsent
        else readNode fuel true false
      pure (item :: (← readBlockItems fuel))
    else
      Read.expect .blockEnd
      pure []

/-- The items of a sequence whose entries are not indented. -/
def readIndentlessItems (fuel : Nat) : Read (List Nat) :=
  match fuel with
  | 0 => Read.fail
  | fuel + 1 => do
    if ← Read.accept .blockEntry then
      let item ←
        if ← Read.seesAny [.blockEntry, .key, .value, .blockEnd] then readAbsent
        else readNode fuel true false
      pure (item :: (← readIndentlessItems fuel))
    else pure []

/-- The entries of a block mapping. -/
def readBlockEntries (fuel : Nat) : Read (List (Nat × Nat)) :=
  match fuel with
  | 0 => Read.fail
  | fuel + 1 => do
    if ← Read.accept .key then
      let key ← readBlockPart fuel
      let value ← if ← Read.accept .value then readBlockPart fuel else readAbsent
      pure ((key, value) :: (← readBlockEntries fuel))
    else
      Read.expect .blockEnd
      pure []

/-- A key or a value of a block mapping, which may be left out. -/
def readBlockPart (fuel : Nat) : Read Nat :=
  match fuel with
  | 0 => Read.fail
  | fuel + 1 => do
    if ← Read.seesAny [.key, .value, .blockEnd] then readAbsent
    else readNode fuel true true

/-- The items of a flow sequence; an item may be a mapping of one entry. -/
def readFlowItems (fuel : Nat) (first : Bool) : Read (List Nat) :=
  match fuel with
  | 0 => Read.fail
  | fuel + 1 => do
    if ← Read.accept .flowSequenceEnd then pure []
    else
      if !first then Read.expect .flowEntry
      if ← Read.accept .key then
        let item ← Read.collect none .map do
          let key ← readFlowPart fuel [.value, .flowEntry, .flowSequenceEnd]
          let value ←
            if ← Read.accept .value then readFlowPart fuel [.flowEntry, .flowSequenceEnd]
            else readAbsent
          pure (.mapping [(key, value)])
        pure (item :: (← readFlowItems fuel false))
      else if ← Read.accept .flowSequenceEnd then pure []
      else
        let item ← readNode fuel false false
        pure (item :: (← readFlowItems fuel false))

/-- The entries of a flow mapping; a key may stand alone. -/
def readFlowEntries (fuel : Nat) (first : Bool) : Read (List (Nat × Nat)) :=
  match fuel with
  | 0 => Read.fail
  | fuel + 1 => do
    if ← Read.accept .flowMappingEnd then pure []
    else
      if !first then Read.expect .flowEntry
      if ← Read.accept .key then
        let key ← readFlowPart fuel [.value, .flowEntry, .flowMappingEnd]
        let value ←
          if ← Read.accept .value then readFlowPart fuel [.flowEntry, .flowMappingEnd]
          else readAbsent
        pure ((key, value) :: (← readFlowEntries fuel false))
      else if ← Read.accept .flowMappingEnd then pure []
      else
        let key ← readNode fuel false false
        let value ← readAbsent
        pure ((key, value) :: (← readFlowEntries fuel false))

/-- A key or a value between brackets, which is left out in front of some tokens. -/
def readFlowPart (fuel : Nat) (ends : List Token) : Read Nat :=
  match fuel with
  | 0 => Read.fail
  | fuel + 1 => do
    if ← Read.seesAny ends then readAbsent
    else readNode fuel false false

end

/-- The handles that every document knows. -/
def usualHandles : List (String × String) := [("!", "!"), ("!!", Tag.domain)]

/-- The directives of a document: at most one version, which must be the first one, and handles
that are all different. -/
def readDirectives : Nat → Bool → List (String × String) → Read (List (String × String))
  | 0, _, _ => Read.fail
  | fuel + 1, versioned, handles => do
    match ← Read.peek with
    | some (.directive d) => do
      Read.skip
      match d with
      | .version major =>
        if versioned || major ≠ 1 then Read.fail else readDirectives fuel true handles
      | .handle given expansion =>
        if (handles.lookup given).isSome then Read.fail
        else readDirectives fuel versioned ((given, expansion) :: handles)
      | .other => readDirectives fuel versioned handles
    | _ => pure handles

/-- Drops the markers behind a document. -/
def skipDocumentEnds : Nat → Read PUnit
  | 0 => pure ⟨⟩
  | fuel + 1 => do
    if ← Read.accept .documentEnd then skipDocumentEnds fuel

/-- The one document of a stream, if it holds one. What follows it is read as far as it takes to
tell that it is a document. -/
def readDocument (fuel : Nat) : Read (Option Nat) := do
  let next ← Read.peek
  let root ←
    match next with
    | none => pure none
    | some .documentStart | some (.directive _) => do
      let handles ← readDirectives fuel false []
      modify fun s => { s with handles := handles ++ usualHandles }
      Read.expect .documentStart
      match ← Read.peek with
      | none | some (.directive _) | some .documentStart | some .documentEnd => some <$> readAbsent
      | _ => some <$> readNode fuel true false
    | some _ => some <$> readNode fuel true false
  if next.isSome then skipDocumentEnds fuel
  if (← Read.peek).isSome then
    let _ ← readDirectives fuel false []
    let _ ← Read.peek
    Read.fail
  pure root

/-- The nodes of a document and the number of the outermost one. -/
structure Document where
  /-- The nodes. -/
  graph : Graph
  /-- The number of the node that holds everything. -/
  root : Nat

/-- The document of a source, if it holds one. -/
def documentOf (source : Source) : Except Fault (Option Document) :=
  let stream := tokens source
  let fuel := 4 * stream.tokens.length + 16
  match (readDocument fuel).run ⟨stream.tokens, stream.fault, usualHandles, [], #[]⟩ with
  | .error fault => .error fault
  | .ok (root, reader) => .ok (root.map fun number => ⟨reader.nodes, number⟩)

end DesignTokens.Yaml
