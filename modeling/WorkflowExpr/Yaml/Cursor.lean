import WorkflowExpr.Yaml.Fault

/-!
# Places in a document

A cursor is a place in the text of a document: what follows, and where it stands. Behind the last
character a cursor reads the character NUL, which no document holds.
-/

namespace WorkflowExpr.Yaml

/-- Whether a document may hold the character. -/
def isAllowed (c : Char) : Bool :=
  let n := c.toNat
  n == 0x9 || n == 0xA || n == 0xD || (0x20 ≤ n && n ≤ 0x7E) || n == 0x85 ||
    (0xA0 ≤ n && n ≤ 0xFFFD) || 0x10000 ≤ n

/-- A text with every line end as one line feed. -/
def joinLineEnds : List Char → List Char
  | '\r' :: '\n' :: rest => '\n' :: joinLineEnds rest
  | '\r' :: rest => '\n' :: joinLineEnds rest
  | c :: rest => c :: joinLineEnds rest
  | [] => []

/-- Whether the character ends a line. -/
def isBreak (c : Char) : Bool :=
  c == '\n' || c == '\x85' || c == '\u2028' || c == '\u2029'

/-- Whether a line or the text ends at the character. -/
def isLineEnd (c : Char) : Bool :=
  c == '\x00' || isBreak c

/-- Whether the character is a space, or a line or the text ends at it. -/
def isSpaceOrEnd (c : Char) : Bool :=
  c == ' ' || isLineEnd c

/-- Whether the character is a space or a tab, or a line or the text ends at it. -/
def isBlankOrEnd (c : Char) : Bool :=
  c == '\t' || isSpaceOrEnd c

/-- A place in a document. -/
structure Cursor where
  rest : List Char
  index : Nat
  line : Nat
  column : Nat

namespace Cursor

/-- The start of a text. A byte order mark there is skipped. -/
def start : List Char → Cursor
  | '\ufeff' :: rest => ⟨rest, 1, 0, 0⟩
  | rest => ⟨rest, 0, 0, 0⟩

/-- The character at the place. -/
def first (c : Cursor) : Char :=
  c.rest.headD '\x00'

/-- The character some places further on. -/
def ahead (c : Cursor) (places : Nat) : Char :=
  c.rest.getD places '\x00'

/-- The place behind one character. A byte order mark takes no column. -/
def step (c : Cursor) : Cursor :=
  match c.rest with
  | [] => c
  | d :: rest =>
    if isBreak d then ⟨rest, c.index + 1, c.line + 1, 0⟩
    else ⟨rest, c.index + 1, c.line, if d = '\ufeff' then c.column else c.column + 1⟩

/-- The place behind some characters. -/
def advance (c : Cursor) : Nat → Cursor
  | 0 => c
  | places + 1 => c.step.advance places

/-- The characters from here on that have a property. -/
def run (c : Cursor) (p : Char → Bool) : List Char :=
  c.rest.takeWhile p

/-- The place behind the characters that have a property. -/
def skip (c : Cursor) (p : Char → Bool) : Cursor :=
  c.advance (c.run p).length

/-- The place behind spaces. -/
def skipSpaces (c : Cursor) : Cursor :=
  c.skip (· == ' ')

/-- The place behind a comment, if one starts here. -/
def skipComment (c : Cursor) : Cursor :=
  if c.first = '#' then c.skip fun d => !isLineEnd d else c

/-- A line end: the character it stands for, and the place behind it. -/
def lineBreak? (c : Cursor) : Option (Char × Cursor) :=
  if isBreak c.first then
    some (if c.first = '\u2028' ∨ c.first = '\u2029' then c.first else '\n', c.step)
  else none

/-- Whether three characters stand here as a word. -/
def isWord (c : Cursor) (mark : List Char) : Bool :=
  mark.isPrefixOf c.rest && isBlankOrEnd (c.ahead mark.length)

/-- Whether a mark between documents stands here. -/
def isSeparator (c : Cursor) : Bool :=
  c.isWord ['-', '-', '-'] || c.isWord ['.', '.', '.']

/-- The place behind what may follow on the line: spaces, a comment and the line end. -/
def endLine (c : Cursor) : Except Fault Cursor :=
  let c := c.skipSpaces.skipComment
  if isLineEnd c.first then .ok c.step else .error .malformed

end Cursor

end WorkflowExpr.Yaml
