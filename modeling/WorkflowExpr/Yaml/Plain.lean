import WorkflowExpr.Yaml.Quoted

/-!
# Plain scalars

A scalar without quotes ends before a colon that is followed by a blank, before a comment, and inside
brackets before the signs that structure these. It goes on in the next line when that is indented far
enough, and the line ends inside it are folded.
-/

namespace WorkflowExpr.Yaml

/-- Whether the character is a sign that brackets give a meaning to. -/
def isFlowSign (c : Char) : Bool :=
  c == ',' || c == '[' || c == ']' || c == '\x7b' || c == '\x7d'

/-- The characters of a plain scalar up to the next blank or the end of the scalar. -/
def plainRun (inFlow : Bool) : List Char → List Char
  | [] => []
  | c :: rest =>
    let next := rest.headD '\x00'
    if isBlankOrEnd c || (c == ':' && (isBlankOrEnd next || (inFlow && isFlowSign next))) ||
        (inFlow && (isFlowSign c || c == '?')) then []
    else c :: plainRun inFlow rest

/-- The empty lines and the indentation before the next line of a plain scalar; nothing where a mark
between documents stands. -/
def plainBreaks : Nat → Cursor → Option (List Char) × Cursor
  | 0, c => (some [], c)
  | fuel + 1, c =>
    if c.isSeparator then (none, c)
    else
      let c := c.skipSpaces
      match c.lineBreak? with
      | none => (some [], c)
      | some (lineEnd, c) =>
        let (others, c) := plainBreaks fuel c
        (others.map (lineEnd :: ·), c)

/-- What stands between two runs of a plain scalar. -/
structure PlainGap where
  /-- What the gap stands for in the text of the scalar; nothing where the scalar ends. -/
  text : List Char
  /-- Whether a line ends in the gap. -/
  crossesLine : Bool
  behind : Cursor

/-- The gap that starts at a place. -/
def plainGap (c : Cursor) : PlainGap :=
  let spaces := c.run (· == ' ')
  let c := c.advance spaces.length
  match c.lineBreak? with
  | none => ⟨spaces, false, c⟩
  | some (lineEnd, c) =>
    match plainBreaks (c.rest.length + 1) c with
    | (none, c) => ⟨[], true, c⟩
    | (some others, c) => ⟨folded lineEnd others, true, c⟩

/-- A plain scalar as far as it was read: its text, and whether the last gap crossed a line. -/
structure PlainText where
  text : List Char
  crossedLine : Bool
  behind : Cursor

/-- The rest of a plain scalar whose lines are indented by `indent` columns, where `gap` is what stands
before the next run. -/
def plainFrom (inFlow : Bool) (indent : Nat) : Nat → List Char → Bool → Cursor → PlainText
  | 0, _, crossed, c => ⟨[], crossed, c⟩
  | fuel + 1, gap, crossed, c =>
    let run := plainRun inFlow c.rest
    if c.first = '#' ∨ run = [] then ⟨[], crossed, c⟩
    else
      let next := plainGap (c.advance run.length)
      if next.text = [] ∨ next.behind.first = '#' ∨ (!inFlow ∧ next.behind.column < indent) then
        ⟨gap ++ run, next.crossesLine, next.behind⟩
      else
        let more := plainFrom inFlow indent fuel next.text next.crossesLine next.behind
        { more with text := gap ++ run ++ more.text }

/-- A plain scalar that starts at a place. -/
def plain (inFlow : Bool) (indent : Nat) (c : Cursor) : PlainText :=
  plainFrom inFlow indent (c.rest.length + 1) [] false c

end WorkflowExpr.Yaml
