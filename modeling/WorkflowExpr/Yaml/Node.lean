import WorkflowExpr.Yaml.Layout
import WorkflowExpr.Yaml.Tag

/-!
# Nodes

The graph of a document: scalars, sequences and mappings, each with its tag. A node knows the nodes that
it holds by their numbers, for an alias puts a node with an anchor in a further place, which may be
inside that node itself.
-/

namespace WorkflowExpr.Yaml

/-- A node of a document. -/
inductive Node where
  | scalar (tag : Tag) (text : String)
  | sequence (tag : Tag) (items : List Nat)
  | mapping (tag : Tag) (pairs : List (Nat × Nat))

namespace Node

/-- The tag of a node. -/
def tag : Node → Tag
  | scalar t _ => t
  | sequence t _ => t
  | mapping t _ => t

/-- Whether the node is a scalar. -/
def isScalar : Node → Bool
  | scalar .. => true
  | _ => false

/-- The node with another tag. -/
def withTag (t : Tag) : Node → Node
  | scalar _ text => .scalar t text
  | sequence _ items => .sequence t items
  | mapping _ pairs => .mapping t pairs

/-- The node for nothing. -/
def nothing : Node := .scalar .null ""

end Node

/-- The nodes of a document by their numbers, and the number of the outermost one. -/
structure Graph where
  nodes : Array Node
  root : Nat

/-- What is known while the tokens of a document are read. -/
structure Reading where
  tokens : List Token
  /-- The nodes with an anchor. -/
  anchors : List (String × Nat)
  /-- The meanings of the handles of tags. -/
  handles : List (String × String)
  nodes : Array Node

/-- Reads part of a document. -/
abbrev Reader := StateT Reading (Except Fault)

namespace Reader

/-- The token that comes next. A fault of the text shows as soon as it is looked at. -/
def peek : Reader (Option Token) := do
  match (← get).tokens.head? with
  | some (.broken fault) => throw fault
  | next => return next

/-- Goes on behind one token. -/
def drop : Reader Unit :=
  modify fun r => { r with tokens := r.tokens.tail }

/-- Fails at a token that may not stand there. -/
def refuse {α : Type} : Reader α :=
  throw .malformed

/-! ## Properties -/

/-- The properties of a node: its anchor, and the text of its tag. A tag that says nothing has the mark
alone for a text. -/
structure Properties where
  anchor? : Option String
  tagText? : Option String

namespace Properties

/-- Whether a node has no properties. -/
def isBare (p : Properties) : Bool :=
  p.anchor?.isNone && p.tagText?.isNone

/-- Whether the form of its text gives a scalar its tag. -/
def asksForm (p : Properties) (isPlain : Bool) : Bool :=
  match p.tagText? with
  | none => isPlain
  | some text => text == "!"

/-- The tag of a node, where `byKind` is the one that it gets without a tag of its own. -/
def tag (p : Properties) (byKind : Tag) : Tag :=
  match p.tagText? with
  | none => byKind
  | some "!" => byKind
  | some text => .ofText text

/-- The tag of a scalar. -/
def scalarTag (p : Properties) (isPlain : Bool) (text : String) : Tag :=
  p.tag (if p.asksForm isPlain then .ofForm text else .string)

end Properties

/-- Reads an anchor, if one comes next. -/
def anchor : Reader (Option String) := do
  match ← peek with
  | some (.anchor name) => do drop; return some name
  | _ => return none

/-- Reads a tag, if one comes next. -/
def tag : Reader (Option WrittenTag) := do
  match ← peek with
  | some (.tag written) => do drop; return some written
  | _ => return none

/-- The text of a tag: its handle is replaced by what it means. -/
def textOfTag (written? : Option WrittenTag) : Reader (Option String) := do
  match written? with
  | none => return none
  | some ⟨none, suffix⟩ => return some suffix
  | some ⟨some handle, suffix⟩ =>
    match (← get).handles.find? fun entry => entry.1 == handle with
    | some (_, meaning) => return some (meaning ++ suffix)
    | none => refuse

/-- Reads an anchor and a tag in any order. -/
def properties : Reader Properties := do
  match ← anchor with
  | some name => return ⟨some name, ← textOfTag (← tag)⟩
  | none =>
    match ← tag with
    | none => return ⟨none, none⟩
    | some written =>
      let name? ← anchor
      return ⟨name?, ← textOfTag (some written)⟩

/-! ## Nodes -/

/-- Adds a node. -/
def add (n : Node) : Reader Nat :=
  modifyGet fun r => (r.nodes.size, { r with nodes := r.nodes.push n })

/-- Adds a node with an anchor, which no other node may have. -/
def enter (given : Properties) (n : Node) : Reader Nat := do
  match given.anchor? with
  | none => add n
  | some name =>
    if (← get).anchors.any fun entry => entry.1 == name then refuse
    let number ← add n
    modify fun r => { r with anchors := (name, number) :: r.anchors }
    return number

/-- Puts a node in the place of another one. -/
def replace (number : Nat) (n : Node) : Reader Unit :=
  modify fun r => { r with nodes := r.nodes.setIfInBounds number n }

/-- Adds a sequence and reads its items. -/
def sequence (given : Properties) (items : Reader (List Nat)) : Reader Nat := do
  let tag := given.tag .sequence
  let number ← enter given (.sequence tag [])
  let items ← items
  replace number (.sequence tag items)
  return number

/-- Adds a mapping and reads its pairs. -/
def mapping (given : Properties) (pairs : Reader (List (Nat × Nat))) : Reader Nat := do
  let tag := given.tag .mapping
  let number ← enter given (.mapping tag [])
  let pairs ← pairs
  replace number (.mapping tag pairs)
  return number

/-- Adds an empty scalar, which needs properties. -/
def emptyNode (given : Properties) : Reader Nat :=
  if given.isBare then refuse else enter given (.scalar (given.tag .null) "")

/-- The token ends an empty entry of a block sequence. -/
def endsEntry : Token → Bool
  | .blockEntry => true
  | .blockEnd => true
  | _ => false

/-- The token ends an empty key or value of a block mapping. -/
def endsPair : Token → Bool
  | .key => true
  | .value => true
  | .blockEnd => true
  | _ => false

/-- The token ends an empty entry of a sequence that has the indentation of its key. -/
def endsInner (t : Token) : Bool :=
  endsEntry t || endsPair t

/-- The token ends an empty value in brackets. -/
def endsFlowValue : Token → Bool
  | .flowEntry => true
  | .flowSequenceEnd => true
  | .flowMappingEnd => true
  | _ => false

/-- The token ends an empty key in brackets. -/
def endsFlowKey (t : Token) : Bool :=
  endsFlowValue t || t matches .value

/-- Where a node stands: in brackets, in a block, or as the key or value of a block mapping, where a
sequence needs no indentation of its own. -/
inductive Place where
  | flow
  | block
  | pair
deriving DecidableEq

mutual

/-- Reads a node. The first argument bounds the nesting. -/
def node : Nat → Place → Reader Nat
  | 0, _ => refuse
  | fuel + 1, place => do
    if let some (.alias name) ← peek then
      drop
      match (← get).anchors.find? fun entry => entry.1 == name with
      | some (_, number) => return number
      | none => refuse
    let given ← properties
    match ← peek with
    | some (.scalar isPlain text) => do
      drop
      enter given (.scalar (given.scalarTag isPlain text) text)
    | some .flowSequence => sequence given (do drop; flowItems fuel true)
    | some .flowMapping => mapping given (do drop; flowPairs fuel true)
    | some .blockSequence =>
      if place = .flow then emptyNode given else sequence given (do drop; blockItems fuel)
    | some .blockMapping =>
      if place = .flow then emptyNode given else mapping given (do drop; blockPairs fuel)
    | some .blockEntry =>
      if place = .pair then sequence given (innerItems fuel) else emptyNode given
    | _ => emptyNode given

/-- Reads a node, or nothing if a token that ends it comes next. -/
def nodeOr : Nat → Place → (Token → Bool) → Reader Nat
  | 0, _, _ => refuse
  | fuel + 1, place, ends => do
    if (← peek).any ends then add .nothing else node fuel place

/-- Reads the rest of a block sequence. -/
def blockItems : Nat → Reader (List Nat)
  | 0 => refuse
  | fuel + 1 => do
    match ← peek with
    | some .blockEntry => do
      drop
      let item ← nodeOr fuel .block endsEntry
      return item :: (← blockItems fuel)
    | some .blockEnd => do drop; return []
    | _ => refuse

/-- Reads the rest of a sequence that has the indentation of its key. -/
def innerItems : Nat → Reader (List Nat)
  | 0 => refuse
  | fuel + 1 => do
    match ← peek with
    | some .blockEntry => do
      drop
      let item ← nodeOr fuel .block endsInner
      return item :: (← innerItems fuel)
    | _ => return []

/-- Reads the value behind a key, or nothing if no colon comes next. -/
def valueOr : Nat → Place → (Token → Bool) → Reader Nat
  | 0, _, _ => refuse
  | fuel + 1, place, ends => do
    match ← peek with
    | some .value => do drop; nodeOr fuel place ends
    | _ => add .nothing

/-- Reads the rest of a block mapping. -/
def blockPairs : Nat → Reader (List (Nat × Nat))
  | 0 => refuse
  | fuel + 1 => do
    match ← peek with
    | some .key => do
      drop
      let k ← nodeOr fuel .pair endsPair
      let v ← valueOr fuel .pair endsPair
      return (k, v) :: (← blockPairs fuel)
    | some .blockEnd => do drop; return []
    | _ => refuse

/-- Reads the rest of a sequence in brackets. A key in it starts a mapping of one pair. -/
def flowItems : Nat → Bool → Reader (List Nat)
  | 0, _ => refuse
  | fuel + 1, isFirst => do
    match ← peek with
    | some .flowSequenceEnd => do drop; return []
    | next => do
      if !isFirst then
        match next with
        | some .flowEntry => drop
        | _ => refuse
      match ← peek with
      | some .flowSequenceEnd => do drop; return []
      | some .key => do
        let item ← mapping ⟨none, none⟩ do
          drop
          let k ← nodeOr fuel .flow endsFlowKey
          let v ← valueOr fuel .flow endsFlowValue
          let _ ← peek
          return [(k, v)]
        return item :: (← flowItems fuel false)
      | _ => do
        let item ← node fuel .flow
        return item :: (← flowItems fuel false)

/-- Reads the rest of a mapping in brackets. A node without a colon is a key with no value. -/
def flowPairs : Nat → Bool → Reader (List (Nat × Nat))
  | 0, _ => refuse
  | fuel + 1, isFirst => do
    match ← peek with
    | some .flowMappingEnd => do drop; return []
    | next => do
      if !isFirst then
        match next with
        | some .flowEntry => drop
        | _ => refuse
      match ← peek with
      | some .flowMappingEnd => do drop; return []
      | some .key => do
        drop
        let k ← nodeOr fuel .flow endsFlowKey
        let v ← valueOr fuel .flow endsFlowValue
        return (k, v) :: (← flowPairs fuel false)
      | _ => do
        let k ← node fuel .flow
        let _ ← peek
        let v ← add .nothing
        return (k, v) :: (← flowPairs fuel false)

end

/-! ## Documents -/

/-- The handles that need no directive. -/
def standardHandles : List (String × String) :=
  [("!", "!"), ("!!", Tag.standard)]

/-- Reads the directives of a document. -/
def directives : Nat → Bool → List (String × String) → Reader (List (String × String))
  | 0, _, _ => refuse
  | fuel + 1, hasVersion, handles => do
    match ← peek with
    | some (.version major) => do
      drop
      if hasVersion ∨ major ≠ 1 then refuse
      directives fuel true handles
    | some (.handle name meaning) => do
      drop
      if handles.any fun entry => entry.1 == name then refuse
      directives fuel hasVersion ((name, meaning) :: handles)
    | some .directive => do drop; directives fuel hasVersion handles
    | _ => return handles ++ standardHandles

/-- Whether the token starts a document or a directive. -/
def startsDocument : Token → Bool
  | .version _ => true
  | .handle .. => true
  | .directive => true
  | .documentStart => true
  | _ => false

/-- Whether the token stands between documents. -/
def isOutside (t : Token) : Bool :=
  startsDocument t || t matches .documentEnd

/-- Reads directives and the mark behind them. -/
def preamble (fuel : Nat) : Reader Unit := do
  let handles ← directives fuel false []
  match ← peek with
  | some .documentStart => do
    drop
    modify fun r => { r with handles := handles }
  | _ => refuse

/-- Drops marks of the end of a document. -/
def dropEnds : Nat → Reader Unit
  | 0 => refuse
  | fuel + 1 => do
    match ← peek with
    | some .documentEnd => do drop; dropEnds fuel
    | _ => return

/-- Reads the outermost node of a document behind its mark. -/
def markedNode (fuel : Nat) : Reader Nat := do
  match ← peek with
  | none => add .nothing
  | some t => if isOutside t then add .nothing else node fuel .block

/-- Reads the only document of a text; a text may also hold none. -/
def document (fuel : Nat) : Reader (Option Nat) := do
  match ← peek with
  | none => return none
  | some t => do
    let root ← if startsDocument t then do preamble fuel; markedNode fuel else node fuel .block
    dropEnds fuel
    if (← peek).isSome then do preamble fuel; refuse
    return some root

end Reader

/-- The number of characters that are read before the first token, of each of which is asked whether a
document may hold it. -/
def firstPiece : Nat := 8192

/-- The number of characters that are read at once behind them. -/
def laterPiece : Nat := 4096

/-- The graph of the only document of a text without looking at its characters. -/
def Graph.ofChars? (cs : List Char) : Except Fault (Option Graph) := do
  let ts := tokens cs
  let (root?, read) ←
    (Reader.document (3 * ts.length + 3)).run ⟨ts, [], Reader.standardHandles, #[]⟩
  return root?.map fun root => ⟨read.nodes, root⟩

/-- The graph of the only document of a text. A text with a character that no document holds is
malformed, unless a misfit shows in the pieces in front of the one with that character. -/
def Graph.ofText? (text : String) : Except Fault (Option Graph) :=
  let cs := joinLineEnds text.toList
  match cs.findIdx? fun c => !isAllowed c with
  | none => ofChars? cs
  | some index =>
    if index < firstPiece then .error .malformed
    else
      let sound := index - (index - firstPiece) % laterPiece
      match ofChars? (cs.take sound) with
      | .error (.misfit cause) => .error (.misfit cause)
      | _ => .error .malformed

end WorkflowExpr.Yaml
