import WorkflowExpr.Yaml.Content

/-!
# Documents

What a document stands for: its outermost part, and what is in each of its collections. Its value is a
tree, in which a collection that holds itself is repeated to a depth that no walk gets to. Its outline
is for showing: there such a collection is repeated as dots, and a pair stands in round brackets.
-/

namespace WorkflowExpr.Yaml

/-- What a document stands for. -/
structure Document where
  root : Part
  /-- The number of nodes. -/
  size : Nat
  /-- What is in the collections; each comes before those that it stands in by order of levels. -/
  contents : List (Nat × Content)

namespace Document

/-! ## Values -/

/-- The values of the collections that are known. -/
abbrev Known := Array (Option Value)

/-- The value of a part, if it is known. -/
def partValue? (known : Known) : Part → Option Value
  | .scalar key => some (.ofKey key)
  | .collection number => known.getD number none

/-- The value of a pair, if it is known. -/
def pairValue? (known : Known) (pair : Part × Part) : Option Value := do
  return .array [← partValue? known pair.1, ← partValue? known pair.2]

/-- The value of a member under its key, if it is known. -/
def memberValue? (known : Known) (member : Key × Part) : Option (Key × Value) :=
  (partValue? known member.2).map fun v => (member.1, v)

/-- The value of a collection, if those of its parts are known. -/
def contentValue? (known : Known) : Content → Option Value
  | .items parts => (parts.mapM (partValue? known)).map .array
  | .pairs pairs => (pairs.mapM (pairValue? known)).map .array
  | .members members => (members.mapM (memberValue? known)).map .object
  | .keys keys => some (.foreign (.set keys))

/-- The values of collections after one more of them is looked at, and the collections without a value,
the last one first. -/
def settleOne (state : Known × List (Nat × Content)) (entry : Nat × Content) :
    Known × List (Nat × Content) :=
  match contentValue? state.1 entry.2 with
  | some v => (state.1.setIfInBounds entry.1 (some v), state.2)
  | none => (state.1, entry :: state.2)

/-- Finds the values of collections from those of their parts, round by round, as long as there is
something to find. What is left either holds itself or holds something that does. The first argument
bounds the number of rounds. -/
def settle : Nat → Known → List (Nat × Content) → Known × List (Nat × Content)
  | 0, known, unsettled => (known, unsettled)
  | fuel + 1, known, unsettled =>
    let (further, left) := unsettled.foldl settleOne (known, [])
    if left.length = unsettled.length then (known, unsettled) else settle fuel further left.reverse

/-- The depth to which a collection that holds itself is repeated. A walk has two steps for each level
of a value, and ends before a thousand of them. -/
def repeatDepth : Nat := 512

/-- Gives collections a value in which every part has the value known so far. -/
def deepen (unsettled : List (Nat × Content)) (known : Known) : Known :=
  unsettled.foldl
    (fun (known : Known) (number, content) =>
      known.setIfInBounds number (contentValue? known content))
    known

/-- The values of all collections. -/
def known (d : Document) : Known :=
  let (known, left) := settle (d.contents.length + 1) (Array.replicate d.size none) d.contents
  if left.isEmpty then known
  else
    let start := left.foldl
      (fun (known : Known) entry =>
        known.setIfInBounds entry.1 (some (.foreign (.beyond .depth))))
      known
    Nat.repeat (deepen left) repeatDepth start

/-- The value of a document. -/
def value (d : Document) : Value :=
  (partValue? d.known d.root).getD .null

/-! ## Outlines -/

/-- What is shown in the place of a collection inside itself. -/
def Content.dots : Content → String
  | .items _ => "[...]"
  | .pairs _ => "[...]"
  | .members _ => "\x7b...\x7d"
  | .keys _ => "set(...)"

/-- A pair as it is shown. -/
def shownPair (first second : Value) : Value :=
  let text : Except HostLimit String := do
    return "(" ++ (← HostText.inside first) ++ ", " ++ (← HostText.inside second) ++ ")"
  match text with
  | .ok text => .foreign (.shown text)
  | .error limit => .foreign (.beyond limit)

/-- A part as it is shown inside collections with the given numbers. The first argument is more than the
number of collections that are not among them. -/
def outlineOf (d : Document) : Nat → List Nat → Part → Value
  | 0, _, _ => .foreign (.beyond .depth)
  | _, _, .scalar key => .ofKey key
  | fuel + 1, around, .collection number =>
    match d.contents.find? fun entry => entry.1 == number with
    | none => .null
    | some (_, content) =>
      if around.contains number then .foreign (.shown (Content.dots content))
      else
        let inner := outlineOf d fuel (number :: around)
        match content with
        | .items parts => .array (parts.map inner)
        | .pairs pairs => .array (pairs.map fun (first, second) => shownPair (inner first) (inner second))
        | .members members => .object (members.map fun (key, part) => (key, inner part))
        | .keys keys => .foreign (.set keys)

/-- The outline of a document. The members of a mapping are shown each by itself. -/
def outline (d : Document) : Value :=
  let shown := d.outlineOf (d.size + 2) []
  let members? := d.contents.findSome? fun (number, content) =>
    match d.root, content with
    | .collection root, .members members => if root = number then some members else none
    | _, _ => none
  match members? with
  | some members => .object (members.map fun (key, part) => (key, shown part))
  | none => shown d.root

end Document

/-- Reads the only document of a text; a text may hold none. -/
def read (text : String) : Except Fault (Option Document) := do
  match ← Graph.ofText? text with
  | none => return none
  | some g =>
    let size := g.nodes.size
    let build : Builder Part := do
      let root ← Builder.part g.root
      Builder.fillAll (size + 1)
      return root
    let (root, built) ← build.run ⟨g.nodes, Array.replicate size none, [], []⟩
    return some ⟨root, size, built.filled⟩

end WorkflowExpr.Yaml
