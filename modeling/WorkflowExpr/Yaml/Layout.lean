import WorkflowExpr.Yaml.Block
import WorkflowExpr.Yaml.Plain
import WorkflowExpr.Yaml.Property

/-!
# Layout

The tokens of a text. Outside of brackets the columns of the lines say where blocks start and end. A
node on one line turns out to be a key only when a colon follows it, so its place among the tokens is
remembered; when the colon comes, the signs for the key, and for a new block, are put in front of it.
-/

namespace WorkflowExpr.Yaml

/-- The most characters that a key without a sign of its own may have. -/
def keyLimit : Nat := 1024

/-- A token that starts a key if a colon follows. -/
structure PossibleKey where
  /-- The number of tokens before it. -/
  number : Nat
  /-- Whether nothing but a key may stand there. -/
  isRequired : Bool
  index : Nat
  line : Nat
  column : Nat

/-- The tokens of a text up to a place. -/
structure Layout where
  cursor : Cursor
  /-- The number of brackets that are open. -/
  depth : Nat
  /-- The columns of the open blocks, the innermost first. -/
  columns : List Nat
  /-- Whether a key without a sign of its own may start here. -/
  allowsKey : Bool
  /-- The possible keys, at most one for each depth. -/
  keys : List (Nat × PossibleKey)
  /-- The tokens, the last one first. -/
  tokens : List Token
  count : Nat

namespace Layout

/-- The layout of nothing. -/
def start (cs : List Char) : Layout :=
  ⟨.start cs, 0, [], true, [], [], 0⟩

/-- The first column inside the innermost block. -/
def least (l : Layout) : Nat :=
  match l.columns with
  | [] => 0
  | column :: _ => column + 1

/-- Whether any brackets are open. -/
def inFlow (l : Layout) : Bool :=
  0 < l.depth

/-- One more token. -/
def push (l : Layout) (t : Token) : Layout :=
  { l with tokens := t :: l.tokens, count := l.count + 1 }

/-- One more token in front of those from a number on. -/
def pushAt (l : Layout) (number : Nat) (t : Token) : Layout :=
  let later := l.count - number
  { l with tokens := l.tokens.take later ++ t :: l.tokens.drop later, count := l.count + 1 }

/-- One more token that takes the text up to a place. -/
def pushTo (l : Layout) (t : Token) (c : Cursor) : Layout :=
  { l.push t with cursor := c }

/-- Opens a block at a column unless one is open there. -/
def openBlock (l : Layout) (column number : Nat) (t : Token) : Layout :=
  if l.least ≤ column then { l.pushAt number t with columns := column :: l.columns } else l

/-- Closes the blocks whose column is `column` or more. -/
def closeBlocks (column : Nat) : List Nat → Layout → Layout
  | [], l => { l with columns := [] }
  | c :: outer, l =>
    if column ≤ c then closeBlocks column outer (l.push .blockEnd)
    else { l with columns := c :: outer }

/-- Closes the blocks whose column is `column` or more, outside of brackets. -/
def close (l : Layout) (column : Nat) : Layout :=
  if l.inFlow then l else closeBlocks column l.columns l

/-- Forgets the possible keys that have a property; none of them may be required. -/
def forget (l : Layout) (p : Nat → PossibleKey → Bool) : Except Fault Layout :=
  if l.keys.any fun (depth, key) => p depth key && key.isRequired then .error .malformed
  else .ok { l with keys := l.keys.filter fun (depth, key) => !p depth key }

/-- Whether the text has left a possible key behind: it is of an earlier line, or too long. -/
def isStale (l : Layout) (key : PossibleKey) : Bool :=
  key.line != l.cursor.line || keyLimit < l.cursor.index - key.index

/-- Forgets the possible keys that the text has left behind. -/
def forgetStale (l : Layout) : Except Fault Layout :=
  l.forget fun _ key => l.isStale key

/-- The number of the first token that may still get the sign of a key in front of it, and so cannot be
taken before the text goes on. -/
def firstHeld (l : Layout) : Nat :=
  l.keys.foldl (fun least (_, key) => if l.isStale key then least else min least key.number) l.count

/-- Forgets the possible key of the current depth. -/
def forgetCurrent (l : Layout) : Except Fault Layout :=
  l.forget fun depth _ => depth == l.depth

/-- Remembers the next token as a possible key if one may start here. -/
def noteKey (l : Layout) : Except Fault Layout :=
  if l.allowsKey then do
    let l ← l.forgetCurrent
    let c := l.cursor
    let isRequired := !l.inFlow && l.least == c.column + 1
    return { l with keys := (l.depth, ⟨l.count, isRequired, c.index, c.line, c.column⟩) :: l.keys }
  else .ok l

/-- Skips spaces, comments and line ends. A key may start on a new line outside of brackets. -/
def skipGap : Nat → Layout → Layout
  | 0, l => l
  | fuel + 1, l =>
    let c := l.cursor.skipSpaces.skipComment
    match c.lineBreak? with
    | none => { l with cursor := c }
    | some (_, c) => skipGap fuel { l with cursor := c, allowsKey := l.allowsKey || !l.inFlow }

/-! ## One token -/

/-- A mark between documents, or a directive. It ends all blocks. -/
def outer (l : Layout) (t : Token) (c : Cursor) : Except Fault Layout := do
  let l ← (l.close 0).forgetCurrent
  return { l.pushTo t c with allowsKey := false }

/-- An opening bracket. -/
def openFlow (l : Layout) (t : Token) : Except Fault Layout := do
  let l ← l.noteKey
  return { l.pushTo t l.cursor.step with depth := l.depth + 1, allowsKey := true }

/-- A closing bracket. -/
def closeFlow (l : Layout) (t : Token) : Except Fault Layout := do
  let l ← l.forgetCurrent
  return { l.pushTo t l.cursor.step with depth := l.depth - 1, allowsKey := false }

/-- A comma between brackets. -/
def flowEntry (l : Layout) : Except Fault Layout := do
  let l ← l.forgetCurrent
  return { l.pushTo .flowEntry l.cursor.step with allowsKey := true }

/-- The sign of an entry of a block sequence. -/
def blockEntry (l : Layout) : Except Fault Layout := do
  if !l.inFlow ∧ !l.allowsKey then .error .malformed
  let l := if l.inFlow then l else l.openBlock l.cursor.column l.count .blockSequence
  let l ← l.forgetCurrent
  return { l.pushTo .blockEntry l.cursor.step with allowsKey := true }

/-- The sign of a key. -/
def keySign (l : Layout) : Except Fault Layout := do
  if !l.inFlow ∧ !l.allowsKey then .error .malformed
  let l := if l.inFlow then l else l.openBlock l.cursor.column l.count .blockMapping
  let l ← l.forgetCurrent
  return { l.pushTo .key l.cursor.step with allowsKey := !l.inFlow }

/-- The colon before a value. A possible key of this depth becomes one. -/
def valueSign (l : Layout) : Except Fault Layout := do
  match l.keys.find? fun (depth, _) => depth == l.depth with
  | some (_, key) =>
    let l := { l with keys := l.keys.filter fun (depth, _) => depth != l.depth }
    let l := l.pushAt key.number .key
    let l := if l.inFlow then l else l.openBlock key.column key.number .blockMapping
    return { l.pushTo .value l.cursor.step with allowsKey := false }
  | none =>
    if !l.inFlow ∧ !l.allowsKey then .error .malformed
    let l := if l.inFlow then l else l.openBlock l.cursor.column l.count .blockMapping
    let l ← l.forgetCurrent
    return { l.pushTo .value l.cursor.step with allowsKey := !l.inFlow }

/-- A node, or a property of one, that may be a key. -/
def node (l : Layout) (t : Token) (c : Cursor) : Except Fault Layout := do
  let l ← l.noteKey
  return { l.pushTo t c with allowsKey := false }

/-- A plain scalar, which may be a key. A key may follow it on a new line. -/
def plainNode (l : Layout) : Except Fault Layout := do
  let l ← l.noteKey
  let scalar := plain l.inFlow l.least l.cursor
  return { l.pushTo (.scalar true (String.ofList scalar.text)) scalar.behind with
    allowsKey := scalar.crossedLine }

/-- A block scalar, which is no key. -/
def blockNode (l : Layout) : Except Fault Layout := do
  let l ← l.forgetCurrent
  let (text, c) ← block l.least l.cursor
  return { l.pushTo (.scalar false (String.ofList text)) c with allowsKey := true }

/-- Whether a plain scalar may start here. -/
def startsPlain (l : Layout) : Bool :=
  let c := l.cursor.first
  !(isBlankOrEnd c || "-?:,[]\x7b\x7d#&*!|>'\"%@\x60".toList.contains c) ||
    (!isBlankOrEnd (l.cursor.ahead 1) && (c == '-' || (!l.inFlow && (c == '?' || c == ':'))))

/-- The next token, where one starts at the place. -/
def next (l : Layout) : Except Fault Layout := do
  let c := l.cursor
  let isAlone := isBlankOrEnd (c.ahead 1)
  if c.column = 0 ∧ c.first = '%' then
    let (said, c) ← directive c
    l.outer said c
  else if c.column = 0 ∧ c.isWord ['-', '-', '-'] then l.outer .documentStart (c.advance 3)
  else if c.column = 0 ∧ c.isWord ['.', '.', '.'] then l.outer .documentEnd (c.advance 3)
  else if c.first = '[' then l.openFlow .flowSequence
  else if c.first = '\x7b' then l.openFlow .flowMapping
  else if c.first = ']' then l.closeFlow .flowSequenceEnd
  else if c.first = '\x7d' then l.closeFlow .flowMappingEnd
  else if c.first = ',' then l.flowEntry
  else if c.first = '-' ∧ isAlone then l.blockEntry
  else if c.first = '?' ∧ (l.inFlow ∨ isAlone) then l.keySign
  else if c.first = ':' ∧ (l.inFlow ∨ isAlone) then l.valueSign
  else if c.first = '*' then
    let (name, c) ← anchorName c
    l.node (.alias name) c
  else if c.first = '&' then
    let (name, c) ← anchorName c
    l.node (.anchor name) c
  else if c.first = '!' then
    let (written, c) ← tag c
    l.node (.tag written) c
  else if (c.first = '|' ∨ c.first = '>') ∧ !l.inFlow then l.blockNode
  else if c.first = '\'' ∨ c.first = '"' then
    let (text, c) ← quoted c
    l.node (.scalar false (String.ofList text)) c
  else if l.startsPlain then l.plainNode
  else .error .malformed

/-- The tokens that can be taken before the text goes wrong behind them, and the fault, the last one
first. -/
def broken (l : Layout) (fault : Fault) : List Token :=
  .broken fault :: l.tokens.drop (l.count - l.firstHeld)

/-- The tokens of the whole text, the last one first. The first argument is more than the number of
characters that follow; every token but those of blocks takes one. -/
def finish : Nat → Layout → List Token
  | 0, l => l.tokens
  | fuel + 1, l =>
    match (skipGap (fuel + 1) l).forgetStale with
    | .error fault => l.broken fault
    | .ok further =>
      if further.cursor.rest.isEmpty then
        match (further.close 0).forgetCurrent with
        | .error fault => l.broken fault
        | .ok done => done.tokens
      else
        match (further.close (further.cursor.column + 1)).next with
        | .error fault => l.broken fault
        | .ok longer => finish fuel longer

end Layout

/-- The tokens of a text. -/
def tokens (cs : List Char) : List Token :=
  ((Layout.start cs).finish (cs.length + 1)).reverse

end WorkflowExpr.Yaml
