import DesignTokens.Yaml.Node.Basic

/-!
# Merging

A mapping may ask for other mappings to be merged into it, one or several under a key that is tagged
for this. Merging changes the nodes for good: the entries that ask for it are dropped, and the
entries of the other mappings are put in front of the mapping's own ones.

## Main Definitions

* `Graph.flatten` — the graph with the merges of a mapping carried out
* `Graph.flattenBudget` — more steps than all merges of a graph can take

## Design Notes

What is merged is flattened first. A mapping may be merged into itself, even while its own merges
are being carried out; whatever it holds at that moment is merged. Every step but the last one drops
an entry, so that the number of entries bounds the steps.
-/

namespace DesignTokens.Yaml.Graph

/-- The graph in which the sign for a default value is an ordinary key of some entries. -/
def plainKeys (graph : Graph) (entries : List (Nat × Nat)) : Graph :=
  entries.foldl (fun g e => if g.tag e.1 = .value then g.retag e.1 .str else g) graph

/-- Carries out the merges of a mapping from a position on; `added` is what was merged before. -/
def flattenFrom : Nat → Nat → Nat → List (Nat × Nat) → Graph → Except Fault Graph
  | 0, _, _, _, graph => .ok graph
  | steps + 1, number, position, added, graph =>
    let entries := graph.entries number
    let ordinary := (entries.drop position).takeWhile fun e => graph.tag e.1 != .merge
    let graph := graph.plainKeys ordinary
    let position := position + ordinary.length
    match entries[position]? with
    | none =>
      .ok (if added.isEmpty then graph else graph.hold number (.mapping (added ++ entries)))
    | some (_, source) =>
      let graph := graph.hold number (.mapping (entries.eraseIdx position))
      match graph.content source with
      | .mapping _ => do
        let graph ← flattenFrom steps source 0 [] graph
        flattenFrom steps number position (added ++ graph.entries source) graph
      | .sequence items => do
        let (found, graph) ← items.foldlM (fun (found, g) item =>
          match g.content item with
          | .mapping _ => do
            let g ← flattenFrom steps item 0 [] g
            .ok (g.entries item ++ found, g)
          | _ => .error .malformed) (([] : List (Nat × Nat)), graph)
        flattenFrom steps number position (added ++ found) graph
      | .scalar _ => .error .malformed

/-- More steps than all merges of a graph can take. -/
def flattenBudget (graph : Graph) : Nat :=
  graph.foldl (fun n node =>
    match node.content with
    | .mapping entries => n + entries.length
    | _ => n) 1

/-- The graph with the merges of a mapping carried out. -/
def flatten (steps number : Nat) (graph : Graph) : Except Fault Graph :=
  flattenFrom steps number 0 [] graph

end DesignTokens.Yaml.Graph
