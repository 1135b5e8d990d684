import DesignTokens.Datum.Sharing
import DesignTokens.Yaml.Node.Grammar
import DesignTokens.Yaml.Node.Merge
import DesignTokens.Yaml.Scalar

/-!
# Documents as data

The datum that a YAML document stands for. Sequences become lists and mappings become mappings;
the key `<<` merges other mappings into the one around it, and a few tags ask for sets, ordered
lists of entries and the like.

## Main Definitions

* `Assembly` — the data that were made of nodes so far
* `meet`, `fill` — the datum of a node, and what is inside of a collection
* `Document.data` — the datum of a document
* `read` — the datum of a source

## Design Notes

A node is met wherever it stands, and always stands for the same datum. A scalar is read when it is
met first; a collection waits until everything that was met before it is filled. So what stands
directly inside of a collection is examined before what is nested further. A mapping's merges are
carried out when it is filled, and change what is met later.
-/

namespace DesignTokens.Yaml

/-- Whether a tag asks for a collection. -/
def Tag.isCollection : Tag → Bool
  | .seq | .map | .set | .omap | .pairs => true
  | _ => false

namespace Graph

/-- The text of a node where a scalar is wanted: a mapping stands for the value under the sign for
a default value. The first argument bounds the depth. -/
def scalarText? (graph : Graph) : Nat → Nat → Option String
  | 0, _ => none
  | depth + 1, number =>
    match graph.content number with
    | .scalar text => some text
    | .mapping entries =>
      match entries.find? fun e => graph.tag e.1 = .value with
      | some (_, value) => graph.scalarText? depth value
      | none => none
    | .sequence _ => none

/-- The datum of a node that is tagged as a scalar. -/
def scalarDatum (graph : Graph) (number : Nat) : Except Fault Datum :=
  match graph.scalarText? (graph.size + 1) number with
  | none => .error .malformed
  | some text =>
    match graph.node number with
    | ⟨.timestamp, .mapping _⟩ => .error .timestampOfMapping
    | node => Yaml.scalarDatum node.tag text

end Graph

/-- The data that were made of nodes so far. -/
structure Assembly where
  /-- The nodes, which merging changes. -/
  graph : Graph
  /-- The data that stand for the nodes that were met. -/
  met : Array (Option Datum)
  /-- What the numbers in these data stand for. -/
  meaning : Array Datum
  /-- The collections that were met and not filled yet, latest first. -/
  waiting : List Nat
  /-- More steps than all merges can take. -/
  budget : Nat

/-- A part of the making of data. -/
abbrev Assemble := StateT Assembly (Except Fault)

/-- Gives a number its meaning. -/
def define (number : Nat) (datum : Datum) : Assemble PUnit :=
  modify fun s => { s with meaning := s.meaning.setIfInBounds number datum }

/-- The datum of a node that is met the first time. Days and moments are told by their numbers like
collections; other scalars need none. -/
def meetFirst (number : Nat) : Assemble Datum := do
  let s ← get
  if (s.graph.tag number).isCollection then
    set { s with waiting := number :: s.waiting }
    pure (.shared number)
  else
    match s.graph.scalarDatum number with
    | .error fault => throw fault
    | .ok (.date day) => do
      define number (.date day)
      pure (.shared number)
    | .ok (.moment moment) => do
      define number (.moment moment)
      pure (.shared number)
    | .ok datum => pure datum

/-- The datum that stands for a node. -/
def meet (number : Nat) : Assemble Datum := do
  match (← get).met.getD number none with
  | some datum => pure datum
  | none =>
    let datum ← meetFirst number
    modify fun s => { s with met := s.met.setIfInBounds number (some datum) }
    pure datum

/-- The datum of a key, which is no collection. -/
def meetKey (number : Nat) : Assemble Datum := do
  let datum ← meet number
  let s ← get
  if (s.graph.tag number).isCollection then throw .malformed
  match datum with
  | .shared n => pure (s.meaning.getD n .null)
  | key => pure key

/-- An entry of a list of entries: a mapping with one entry, whatever its key. -/
def meetPair (number : Nat) : Assemble Datum := do
  match (← get).graph.content number with
  | .mapping [(key, value)] => do
    let first ← meet key
    let second ← meet value
    pure (.pair first second)
  | _ => throw .malformed

/-- The entries of a mapping with the merges carried out. -/
def meetEntries (number : Nat) : Assemble Entries := do
  let s ← get
  match s.graph.flatten s.budget number with
  | .error fault => throw fault
  | .ok graph => do
    set { s with graph := graph }
    (graph.entries number).foldlM (fun made e => do
      let key ← meetKey e.1
      let value ← meet e.2
      pure (Datum.insertEntry key value made)) []

/-- Meets what is directly inside of a collection. -/
def fill (number : Nat) : Assemble PUnit := do
  let datum ←
    match (← get).graph.node number with
    | ⟨.seq, .sequence items⟩ => Datum.list <$> items.mapM meet
    | ⟨.omap, .sequence items⟩ | ⟨.pairs, .sequence items⟩ => Datum.list <$> items.mapM meetPair
    | ⟨.map, .mapping _⟩ => Datum.mapping <$> meetEntries number
    | ⟨.set, .mapping _⟩ => (fun entries => Datum.set (entries.map (·.1))) <$> meetEntries number
    | _ => throw .malformed
  define number datum

/-- Fills all collections that wait, and those that are met meanwhile. -/
def fillAll : Nat → Assemble PUnit
  | 0 => pure ⟨⟩
  | rounds + 1 => do
    match (← get).waiting.reverse with
    | [] => pure ⟨⟩
    | level => do
      modify fun s => { s with waiting := [] }
      level.forM fill
      fillAll rounds

/-- The assembly that no node was met for. -/
def Assembly.start (graph : Graph) : Assembly :=
  ⟨graph, graph.map fun _ => none, graph.map fun _ => .null, [], graph.flattenBudget⟩

/-- The datum of a document, and what stands at several places in it. -/
def Document.data (document : Document) : Except Fault (Datum × SharedData) :=
  let assemble : Assemble Datum := do
    let datum ← meet document.root
    fillAll (document.graph.size + 1)
    pure datum
  (assemble.run (.start document.graph)).map fun (datum, s) => datum.untangled s.meaning

/-- The datum of a source, and what stands at several places in it; a text without a document stands
for nothing. -/
def read (source : Source) : Except Fault (Datum × SharedData) :=
  match documentOf source with
  | .error fault => .error fault
  | .ok none => .ok (.null, [])
  | .ok (some document) => document.data

end DesignTokens.Yaml
