import WorkflowExpr.Yaml.Merge
import WorkflowExpr.Yaml.Scalar

/-!
# Contents of collections

What the nodes of a document stand for. A scalar is read as soon as a collection with it is filled;
collections are filled level by level, those of one level in the order of the text. Of several faults
the one met first is reported.
-/

namespace WorkflowExpr.Yaml

/-- What a node stands for: a scalar, or a collection known by the number of its node. -/
inductive Part where
  | scalar (key : Key)
  | collection (number : Nat)

/-- What is in a collection. -/
inductive Content where
  | items (parts : List Part)
  | pairs (pairs : List (Part × Part))
  | members (members : List (Key × Part))
  | keys (keys : List Key)

/-- How far a document is built. -/
structure Building where
  nodes : Nodes
  /-- What nodes stand for, as far as that is known. -/
  parts : Array (Option Part)
  /-- The collections that are still to be filled, the last one first. -/
  waiting : List Nat
  /-- The filled collections, the last one first. -/
  filled : List (Nat × Content)

/-- Builds part of a document. -/
abbrev Builder := StateT Building (Except Fault)

/-- The text of a scalar; of a mapping it is that of the value of its default key. The first argument
bounds how often the text is looked for in a mapping. -/
def Nodes.text (nodes : Nodes) : Nat → Nat → Except Fault String
  | 0, _ => .error (.misfit .endless)
  | fuel + 1, number =>
    match nodes.node number with
    | .scalar _ text => .ok text
    | .mapping _ pairs =>
      match pairs.find? fun pair => nodes.tag pair.1 = .default with
      | some (_, value) => text nodes fuel value
      | none => .error .malformed
    | .sequence .. => .error .malformed

/-- What a node stands for that is no collection. Its tag has to be one of scalars, and a timestamp has to
be a scalar itself. -/
def Nodes.scalarKey (nodes : Nodes) (number : Nat) : Except Fault Key := do
  let n := nodes.node number
  if !n.tag.isScalar then .error .malformed
  let text ← nodes.text (nodes.size + 1) number
  if n.tag = .timestamp ∧ !n.isScalar then .error (.misfit .notText)
  else Yaml.scalarKey (number + 1) n.tag text

namespace Builder

/-- What a node stands for. A collection that is met for the first time waits to be filled. -/
def part (number : Nat) : Builder Part := do
  let b ← get
  match b.parts.getD number none with
  | some p => return p
  | none =>
    let tag := b.nodes.tag number
    if tag.isCollection then
      let p := Part.collection number
      set { b with parts := b.parts.setIfInBounds number (some p), waiting := number :: b.waiting }
      return p
    else
      let p := Part.scalar (← b.nodes.scalarKey number)
      set { b with parts := b.parts.setIfInBounds number (some p) }
      return p

/-- The members of a mapping. A collection is no key. -/
def members : List (Nat × Nat) → Builder (List (Key × Part))
  | [] => return []
  | (key, value) :: rest => do
    match ← part key with
    | .collection _ => throw .malformed
    | .scalar k => do
      let v ← part value
      return (k, v) :: (← members rest)

/-- The members of a mapping node after merging. -/
def mappingMembers (number : Nat) : Builder (List (Key × Part)) := do
  match (← get).nodes.node number with
  | .mapping .. => do
    let b ← get
    set { b with nodes := ← b.nodes.flattened number }
    return Value.ofEntries (← members ((← get).nodes.pairs number))
  | _ => throw .malformed

/-- The pair that a mapping of one member stands for. -/
def pair (number : Nat) : Builder (Part × Part) := do
  match (← get).nodes.node number with
  | .mapping _ [(key, value)] => return (← part key, ← part value)
  | _ => throw .malformed

/-- What is in a collection. -/
def content (number : Nat) : Builder Content := do
  match (← get).nodes.node number with
  | .mapping .mapping _ => return .members (← mappingMembers number)
  | .mapping .set _ => return .keys ((← mappingMembers number).map (·.1))
  | .sequence .sequence items => return .items (← items.mapM part)
  | .sequence .pairs items => return .pairs (← items.mapM pair)
  | _ => throw .malformed

/-- Fills a collection. -/
def fill (number : Nat) : Builder Unit := do
  let c ← content number
  modify fun b => { b with filled := (number, c) :: b.filled }

/-- Fills all collections level by level. The first argument bounds the number of levels. -/
def fillAll : Nat → Builder Unit
  | 0 => return
  | fuel + 1 => do
    let waiting := (← get).waiting
    if waiting.isEmpty then return
    modify fun b => { b with waiting := [] }
    waiting.reverse.forM fill
    fillAll fuel

end Builder

end WorkflowExpr.Yaml
