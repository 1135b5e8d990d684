import DesignTokens.Yaml.Tag

/-!
# YAML nodes

A document is a graph of nodes. The nodes inside of a collection are told by their numbers, because
a node may stand at several places, even inside of itself: at every place where its anchor is
referred to.

## Main Definitions

* `Node` — a tagged scalar, sequence or mapping
* `Graph` — the nodes of a document under their numbers
-/

namespace DesignTokens.Yaml

/-- What a node holds, the nodes inside of it being told by their numbers. -/
inductive Content
  | scalar (text : String)
  | sequence (items : List Nat)
  | mapping (entries : List (Nat × Nat))
  deriving DecidableEq

/-- A node of a document. -/
structure Node where
  /-- What the node stands for. -/
  tag : Tag
  /-- What the node holds. -/
  content : Content
  deriving DecidableEq

/-- What stands where nothing is written. -/
def Node.absent : Node := ⟨.null, .scalar ""⟩

/-- The nodes of a document under their numbers. -/
abbrev Graph := Array Node

namespace Graph

/-- The node of a number. -/
def node (graph : Graph) (number : Nat) : Node := graph.getD number .absent

/-- The tag of the node of a number. -/
def tag (graph : Graph) (number : Nat) : Tag := (graph.node number).tag

/-- What the node of a number holds. -/
def content (graph : Graph) (number : Nat) : Content := (graph.node number).content

/-- The graph with a node that holds something else. -/
def hold (graph : Graph) (number : Nat) (content : Content) : Graph :=
  graph.modify number fun n => { n with content := content }

/-- The graph with a node that has another tag. -/
def retag (graph : Graph) (number : Nat) (tag : Tag) : Graph :=
  graph.modify number fun n => { n with tag := tag }

/-- The entries of the mapping of a number; other nodes have none. -/
def entries (graph : Graph) (number : Nat) : List (Nat × Nat) :=
  match graph.content number with
  | .mapping entries => entries
  | _ => []

end Graph

end DesignTokens.Yaml
