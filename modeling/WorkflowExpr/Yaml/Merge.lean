import WorkflowExpr.Yaml.Node

/-!
# Merged mappings

A merge key puts the pairs of another mapping, or of several ones, in front of those of its own mapping.
The merged mappings get what they merge themselves first. The nodes are changed in place, so a mapping
that is merged into several others, or into itself, is flattened once.
-/

namespace WorkflowExpr.Yaml

/-- The nodes of a document. -/
abbrev Nodes := Array Node

namespace Nodes

/-- The node with a number. -/
def node (nodes : Nodes) (number : Nat) : Node :=
  nodes.getD number .nothing

/-- The tag of the node with a number. -/
def tag (nodes : Nodes) (number : Nat) : Tag :=
  (nodes.node number).tag

/-- The pairs of a mapping; another node has none. -/
def pairs (nodes : Nodes) (number : Nat) : List (Nat × Nat) :=
  match nodes.node number with
  | .mapping _ pairs => pairs
  | _ => []

/-- The nodes with other pairs in a mapping. -/
def withPairs (nodes : Nodes) (number : Nat) (pairs : List (Nat × Nat)) : Nodes :=
  nodes.setIfInBounds number (.mapping (nodes.tag number) pairs)

/-- The number of pairs with a merge key. -/
def mergeCount (nodes : Nodes) : Nat :=
  nodes.foldl
    (fun count n =>
      match n with
      | .mapping _ pairs => count + pairs.countP fun pair => nodes.tag pair.1 == .merge
      | _ => count)
    0

/-- The value of the first merge key among pairs, and the other pairs. -/
def takeMerge? (nodes : Nodes) : List (Nat × Nat) → Option (Nat × List (Nat × Nat))
  | [] => none
  | (key, value) :: rest =>
    if nodes.tag key = .merge then some (value, rest)
    else (takeMerge? nodes rest).map fun (merged, others) => (merged, (key, value) :: others)

/-- A mapping without merge keys gets its final pairs: those that were merged, and its own. A key that
stands for its mapping becomes a key like others. -/
def close (nodes : Nodes) (number : Nat) (merged : List (Nat × Nat)) : Nodes :=
  let own := nodes.pairs number
  let nodes := own.foldl
    (fun (nodes : Nodes) (key, _) =>
      if nodes.tag key = .default then
        nodes.setIfInBounds key ((nodes.node key).withTag .string)
      else nodes)
    nodes
  if merged.isEmpty then nodes else nodes.withPairs number (merged ++ own)

/-- Merges into a mapping what its merge keys ask for; `merged` holds the pairs so far. The first
argument is at least the number of merge keys that are left. -/
def flatten : Nat → Nat → List (Nat × Nat) → Nodes → Except Fault Nodes
  | 0, number, merged, nodes => .ok (nodes.close number merged)
  | fuel + 1, number, merged, nodes =>
    match nodes.takeMerge? (nodes.pairs number) with
    | none => .ok (nodes.close number merged)
    | some (value, others) =>
      let nodes := nodes.withPairs number others
      match nodes.node value with
      | .mapping .. => do
        let nodes ← flatten fuel value [] nodes
        flatten fuel number (merged ++ nodes.pairs value) nodes
      | .sequence _ items => do
        let (nodes, lists) ← items.foldlM
          (fun ((nodes, lists) : Nodes × List (List (Nat × Nat))) item =>
            match nodes.node item with
            | .mapping .. => do
              let nodes ← flatten fuel item [] nodes
              return (nodes, nodes.pairs item :: lists)
            | _ => .error .malformed)
          (nodes, [])
        flatten fuel number (merged ++ lists.flatten) nodes
      | .scalar .. => .error .malformed

/-- The nodes after a mapping has merged what its merge keys ask for. -/
def flattened (nodes : Nodes) (number : Nat) : Except Fault Nodes :=
  if (nodes.takeMerge? (nodes.pairs number)).isSome then
    flatten nodes.mergeCount number [] nodes
  else .ok (nodes.close number [])

end Nodes

end WorkflowExpr.Yaml
