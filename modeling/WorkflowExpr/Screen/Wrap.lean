import WorkflowExpr.Screen.Cluster
import WorkflowExpr.Screen.Picture

/-!
# Wrapped text

A text is shown in lines of a limited width. A line is broken between words; a word that is wider than
a line is folded over several lines or cut off.
-/

namespace WorkflowExpr.Screen

/-- What happens to a word that is wider than a line. -/
inductive Overflow where
  | fold
  | ellipsis
deriving DecidableEq

/-- The text without the controls that move the cursor or ring the bell. -/
def withoutControls (cs : List Char) : List Char :=
  cs.filter fun c => !(['\x07', '\x08', '\x0b', '\x0c', '\x0d'].contains c)

/-- The lines of a text, of which there is at least one. -/
def linesOf : List Char → List (List Char)
  | [] => [[]]
  | c :: cs =>
    match linesOf cs with
    | [] => [[c]]
    | line :: lines => if c = '\n' then [] :: line :: lines else (c :: line) :: lines

/-- The distance between tab stops. -/
def tabWidth : Nat := 8

/-- A line with a space for each tab and further ones up to the next stop, behind a part that starts at
a cell and is given with its last character first. -/
def expandTabsBehind (cell : Nat) (part : List Char) : List Char → List Char
  | [] => part.reverse
  | '\t' :: cs =>
    let piece := part.reverse ++ [' ']
    let reached := cell + width piece
    let gap := (tabWidth - reached % tabWidth) % tabWidth
    piece ++ List.replicate gap ' ' ++ expandTabsBehind (reached + gap) [] cs
  | c :: cs => expandTabsBehind cell (c :: part) cs

/-- A line with spaces up to the next stop for each tab. -/
def expandTabs (cs : List Char) : List Char :=
  expandTabsBehind 0 [] cs

/-- The words of a line that starts with one, each with the blanks behind it. -/
def wordsFrom : List Char → List (List Char)
  | [] => []
  | c :: cs =>
    match wordsFrom cs with
    | [] => [[c]]
    | word :: others =>
      if Text.isBlank c && !(word.head?.all Text.isBlank) then [c] :: word :: others
      else (c :: word) :: others

/-- The words of a line, the first one with the blanks before it; a line of blanks has none. -/
def words (cs : List Char) : List (List Char) :=
  let lead := cs.takeWhile Text.isBlank
  match wordsFrom (cs.drop lead.length) with
  | [] => []
  | word :: others => (lead ++ word) :: others

/-- The pieces of a word that fit into lines, where `room` cells are left in the first one. -/
def chopped (lineWidth : Nat) : Nat → List Cluster → List (List Char)
  | _, [] => [[]]
  | room, cluster :: rest =>
    if cluster.cells ≤ room then
      match chopped lineWidth (room - cluster.cells) rest with
      | [] => [cluster.text]
      | piece :: pieces => (cluster.text ++ piece) :: pieces
    else
      match chopped lineWidth (lineWidth - cluster.cells) rest with
      | [] => [[], cluster.text]
      | piece :: pieces => [] :: (cluster.text ++ piece) :: pieces

/-- A line that is being filled: the lines before it, last one first, its text, and the cells used. -/
structure Filling where
  done : List (List Char)
  line : List Char
  used : Nat

/-- The text with one more word. -/
def Filling.add (overflow : Overflow) (lineWidth : Nat) (f : Filling) (word : List Char) : Filling :=
  let wordWidth := width (Text.trimEnd word)
  let broken (line : List Char) : Filling :=
    if f.done = [] ∧ f.line = [] then ⟨[], line, width line⟩
    else ⟨f.line :: f.done, line, width line⟩
  if f.used + wordWidth ≤ lineWidth then
    { f with line := f.line ++ word, used := f.used + width word }
  else if wordWidth ≤ lineWidth ∨ overflow ≠ .fold then broken word
  else
    match chopped lineWidth lineWidth (clustersOf word) with
    | [] => broken word
    | piece :: pieces =>
      pieces.foldl (fun f piece => ⟨f.line :: f.done, piece, width piece⟩) (broken piece)

/-- The text without blanks at its end as far as it has more than a number of characters. -/
def cropBlanks (most : Nat) (cs : List Char) : List Char :=
  let blanks := cs.length - (Text.trimEnd cs).length
  cs.take (cs.length - min blanks (cs.length - most))

/-- The text cut to a width; what is cut off may be marked. -/
def truncated (overflow : Overflow) (lineWidth : Nat) (cs : List Char) : List Char :=
  if width cs ≤ lineWidth then cs
  else if overflow = .ellipsis then fit (lineWidth - 1) cs ++ ['…']
  else fit lineWidth cs

/-- A line broken into lines of a width. -/
def wrapLine (overflow : Overflow) (lineWidth : Nat) (cs : List Char) : List (List Char) :=
  let filled := (words (expandTabs cs)).foldl (Filling.add overflow lineWidth) ⟨[], [], 0⟩
  let lines := if filled.done = [] then [expandTabs cs] else (filled.line :: filled.done).reverse
  lines.map fun line => truncated overflow lineWidth (cropBlanks lineWidth line)

/-- A text in lines of a width. -/
def wrap (overflow : Overflow) (lineWidth : Nat) (text : String) : List (List Char) :=
  (linesOf (withoutControls text.toList)).flatMap (wrapLine overflow lineWidth)

/-- A text as it is printed, with pictures in place of their names and its lines broken at a width. -/
def printed (lineWidth : Nat) (text : String) : String :=
  let shown := String.ofList (withPictures text.toList)
  String.join ((wrap .fold lineWidth shown).map fun line => String.ofList line ++ "\n")

end WorkflowExpr.Screen
