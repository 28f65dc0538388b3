import WorkflowExpr.Number.Double
import WorkflowExpr.Screen.Wrap

/-!
# Tables

A table has columns of a common width, as wide as their widest cell as long as the whole table fits;
else the widest columns give way. It is drawn with a frame, a header and a title, or as bare columns
with two spaces between them.
-/

namespace WorkflowExpr.Screen

/-- A column of a table. -/
structure Column where
  header : String
  isRight : Bool
  overflow : Overflow

/-- A table. With a title it is framed and shows its header. -/
structure Table where
  title? : Option String
  columns : List Column
  rows : List (List String)

namespace Table

/-- Whether the table is framed. -/
def isFramed (t : Table) : Bool :=
  t.title?.isSome

/-- The spaces on the two sides of the cells of a column. Bare columns have none at the edges of the
table. -/
def padding (t : Table) (index : Nat) : Nat × Nat :=
  if t.isFramed then (1, 1)
  else (if index = 0 then 0 else 1, if index + 1 = t.columns.length then 0 else 1)

/-- The spaces on both sides of the cells of a column. -/
def paddingWidth (t : Table) (index : Nat) : Nat :=
  (t.padding index).1 + (t.padding index).2

/-- Whether the character starts a new line when a text is measured. -/
def separatesLines (c : Char) : Bool :=
  c == '\n' || (0x1C ≤ c.toNat && c.toNat ≤ 0x1E) || c == '\x85' || c == '\u2028' || c == '\u2029'

/-- The lines of a text when it is measured. -/
def measuredLines : List Char → List (List Char)
  | [] => [[]]
  | c :: cs =>
    match measuredLines cs with
    | [] => [[c]]
    | line :: lines => if separatesLines c then [] :: line :: lines else (c :: line) :: lines

/-- The number of cells of the widest line of a text. -/
def measure (text : String) : Nat :=
  ((measuredLines (withoutControls text.toList)).map width).foldl max 0

/-- The texts of a column, with its header if that is shown. -/
def texts (t : Table) (index : Nat) (column : Column) : List String :=
  (if t.isFramed then [column.header] else []) ++ t.rows.map fun row => row.getD index ""

/-- The width of a column, with the spaces at its sides, in a room of limited width. -/
def measured (t : Table) (room : Nat) (index : Nat) (column : Column) : Nat :=
  let widest := ((t.texts index column).map measure).foldl max 0
  min (widest + t.paddingWidth index) room

/-- The cells of the frame beside those of the columns. -/
def frameWidth (t : Table) : Nat :=
  if t.isFramed then t.columns.length + 1 else 0

/-- Takes cells from columns: those with a share give in turn, none more than its most. -/
def reduced : List (Nat × Nat × Nat) → Nat → Nat → List Nat
  | [], _, _ => []
  | (share, most, columnWidth) :: rest, total, shares =>
    if share = 0 ∨ most = 0 ∨ shares = 0 then columnWidth :: reduced rest total shares
    else
      let taken := min most (Magnitude.roundHalfEven (share * total) shares)
      (columnWidth - taken) :: reduced rest (total - taken) (shares - share)

/-- Makes the widest columns as wide as the next ones until all fit. -/
def collapsed (room : Nat) : Nat → List Nat → List Nat
  | 0, widths => widths
  | fuel + 1, widths =>
    let excess := total widths - room
    let widest := widths.foldl max 0
    let next := (widths.map fun w => if w = widest then 0 else w).foldl max 0
    if excess = 0 ∨ widest = next then widths
    else
      let most := min excess (widest - next)
      let shares := widths.map fun w => if w = widest then 1 else 0
      collapsed room fuel
        (reduced ((shares.zip widths).map fun (share, w) => (share, most, w)) excess (total shares))

/-- The widths of the columns, with the spaces at their sides. -/
def columnWidths (t : Table) (lineWidth : Nat) : List Nat :=
  let room := lineWidth - t.frameWidth
  let columns := t.columns.zipIdx
  let widths := columns.map fun (column, index) => max 1 (t.measured room index column)
  if total widths ≤ room then widths
  else
    let narrow := collapsed room (total widths) widths
    let narrow := if total narrow ≤ room then narrow
      else reduced (narrow.map fun w => (1, w, w)) (total narrow - room) narrow.length
    (columns.zip narrow).map fun ((column, index), w) => t.measured w index column

/-- The lines of a cell, filled to the width of its column. They are filled twice, as a joiner at the
end of a line takes the first space with it. -/
def cellLines (t : Table) (index : Nat) (column : Column) (columnWidth : Nat) (text : String) :
    List (List Char) :=
  let (left, right) := t.padding index
  let inner := columnWidth - left - right
  (wrap column.overflow inner text).map fun line =>
    let line := if column.isRight then
        let line := Text.trimEnd line
        List.replicate (inner - width line) ' ' ++ line
      else line
    List.replicate left ' ' ++ fit inner (fit inner line) ++ List.replicate right ' '

/-- Joins the cells of a line, with a stroke between two of them and at the edges. -/
def joined (isFramed : Bool) (stroke : Char) (parts : List (List Char)) : List Char :=
  if isFramed then stroke :: parts.flatMap fun part => part ++ [stroke] else parts.flatten

/-- The lines of a row. -/
def rowLines (t : Table) (widths : List Nat) (stroke : Char) (row : List String) : List (List Char) :=
  let cellsOf := (t.columns.zipIdx.zip widths).map fun ((column, index), w) =>
    (w, t.cellLines index column w (row.getD index ""))
  let height := (cellsOf.map fun (_, lines) => lines.length).foldl max 1
  (List.range height).map fun n =>
    joined t.isFramed stroke (cellsOf.map fun (w, lines) => lines.getD n (List.replicate w ' '))

/-- A line of the frame: its left end, its stroke, its crossings and its right end. -/
def ruleLine (widths : List Nat) (left stroke crossing right : Char) : List Char :=
  left :: [crossing].intercalate (widths.map fun w => List.replicate w stroke) ++ [right]

/-- A line with a text in the middle. -/
def centred (lineWidth : Nat) (text : String) : List Char :=
  let line := text.toList
  fit lineWidth (List.replicate ((lineWidth - width line) / 2) ' ' ++ line)

/-- The lines of a table on a terminal of a width. -/
def lines (t : Table) (lineWidth : Nat) : List (List Char) :=
  let widths := t.columnWidths lineWidth
  match t.title? with
  | none => t.rows.flatMap (t.rowLines widths ' ')
  | some title =>
    centred (total widths + t.frameWidth) title :: ruleLine widths '┏' '━' '┳' '┓' ::
      t.rowLines widths '┃' (t.columns.map Column.header) ++
      ruleLine widths '┡' '━' '╇' '┩' :: t.rows.flatMap (t.rowLines widths '│') ++
      [ruleLine widths '└' '─' '┴' '┘']

/-- The text of a table on a terminal of a width. -/
def text (t : Table) (lineWidth : Nat) : String :=
  String.join ((t.lines lineWidth).map fun line => String.ofList line ++ "\n")

end Table

end WorkflowExpr.Screen
