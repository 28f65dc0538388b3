import WorkflowExpr.Yaml.Quoted

/-!
# Block scalars

A block scalar stands on the lines below its header, indented. A literal one keeps its line ends; a
folded one joins lines that start with no blank. The header may fix the indentation, and says how much
of the line ends at the close is kept.
-/

namespace WorkflowExpr.Yaml

/-- How much of the line ends at the close of a block scalar is kept. -/
inductive Chomping where
  | strip
  | clip
  | keep
deriving DecidableEq

/-- The header of a block scalar. -/
structure BlockHeader where
  chomping : Chomping
  indent? : Option Nat

/-- A sign for the chomping. -/
def chompingSign? : Char → Option Chomping
  | '+' => some .keep
  | '-' => some .strip
  | _ => none

/-- A digit for the indentation; zero is refused. -/
def indentDigit? (c : Cursor) : Except Fault (Option Nat × Cursor) :=
  if c.first = '0' then .error .malformed
  else if c.first.isDigit then .ok (some (c.first.toNat - '0'.toNat), c.step)
  else .ok (none, c)

/-- The header of a block scalar, the sign and the digit in any order. -/
def blockHeader (c : Cursor) : Except Fault (BlockHeader × Cursor) := do
  let (header, c) ← match chompingSign? c.first with
    | some chomping => do
      let (indent?, c) ← indentDigit? c.step
      pure (BlockHeader.mk chomping indent?, c)
    | none => do
      let (indent?, c) ← indentDigit? c
      match indent?, chompingSign? c.first with
      | some _, some chomping => pure (BlockHeader.mk chomping indent?, c.step)
      | _, _ => pure (BlockHeader.mk .clip indent?, c)
  if isSpaceOrEnd c.first then return (header, ← c.endLine) else .error .malformed

/-- The empty lines at the start of a block scalar, and the widest indentation of them and of the line
after them. -/
def leadingLines : Nat → Cursor → List Char × Nat × Cursor
  | 0, c => ([], 0, c)
  | fuel + 1, c =>
    let c := c.skipSpaces
    match c.lineBreak? with
    | none => ([], c.column, c)
    | some (lineEnd, next) =>
      let (others, widest, behind) := leadingLines fuel next
      (lineEnd :: others, max c.column widest, behind)

/-- The place behind at most the indentation of a line. -/
def Cursor.skipIndent (c : Cursor) (indent : Nat) : Cursor :=
  c.advance (min (indent - c.column) (c.run (· == ' ')).length)

/-- The empty lines inside a block scalar, and the place behind the indentation of the line after
them. -/
def blankLines (indent : Nat) : Nat → Cursor → List Char × Cursor
  | 0, c => ([], c)
  | fuel + 1, c =>
    let c := c.skipIndent indent
    match c.lineBreak? with
    | none => ([], c)
    | some (lineEnd, c) =>
      let (others, c) := blankLines indent fuel c
      (lineEnd :: others, c)

/-- The lines of a block scalar from one on. `empty` holds the empty lines before it. -/
def blockLines (isFolded : Bool) (chomping : Chomping) (indent : Nat) :
    Nat → List Char → Cursor → List Char × Cursor
  | 0, _, c => ([], c)
  | fuel + 1, empty, c =>
    let isIndented := !(c.first == ' ' || c.first == '\t')
    let line := c.run fun d => !isLineEnd d
    let c := c.advance line.length
    let (lineEnd, c) := match c.lineBreak? with
      | none => ([], c)
      | some (d, c) => ([d], c)
    let (others, c) := blankLines indent (c.rest.length + 1) c
    if c.column = indent ∧ !c.rest.isEmpty then
      let joins := isFolded && lineEnd == ['\n'] && isIndented && !(c.first == ' ' || c.first == '\t')
      let between := if joins then (if others = [] then [' '] else []) else lineEnd
      let (more, c) := blockLines isFolded chomping indent fuel others c
      (empty ++ line ++ between ++ more, c)
    else
      let close := match chomping with
        | .strip => []
        | .clip => lineEnd
        | .keep => lineEnd ++ others
      (empty ++ line ++ close, c)

/-- A block scalar from its sign on, inside a block whose lines are indented by at least `least`
columns. -/
def block (least : Nat) (c : Cursor) : Except Fault (List Char × Cursor) := do
  let isFolded := c.first = '>'
  let (header, c) ← blockHeader c.step
  let fuel := c.rest.length + 1
  let least := max least 1
  let (empty, indent, c) := match header.indent? with
    | none =>
      let (empty, widest, c) := leadingLines fuel c
      (empty, max least widest, c)
    | some n =>
      let (empty, c) := blankLines (least + n - 1) fuel c
      (empty, least + n - 1, c)
  if c.column = indent ∧ !c.rest.isEmpty then
    return blockLines isFolded header.chomping indent fuel empty c
  else return (if header.chomping = .keep then empty else [], c)

end WorkflowExpr.Yaml
