/-!
# Paths

A path is written as names with slashes between them. Empty names and single dots in the text of a
path stand for nothing, a path that starts with a slash is absolute, and two slashes at the start (but
not three) are kept apart from one.
-/

namespace WorkflowExpr

/-- The names on the way to a place. -/
abbrev Path := List String

namespace Path

/-- The parts of a text between its slashes. -/
def slashParts : List Char → List (List Char)
  | [] => [[]]
  | c :: cs =>
    match slashParts cs with
    | [] => [[c]]
    | part :: parts => if c = '/' then [] :: part :: parts else (c :: part) :: parts

/-- The parts of a text between its slashes, as names to follow one after the other. -/
def steps (text : String) : Path :=
  (slashParts text.toList).map String.ofList

/-- The names that the text of a path writes. -/
def ofText (text : String) : Path :=
  (steps text).filter fun name => name ≠ "" ∧ name ≠ "."

/-- Whether the text of a path starts at the top of the file system. -/
def isAbsolute (text : String) : Bool :=
  text.toList.head? = some '/'

/-- The slashes that the text of a path starts with. -/
def lead : List Char → String
  | '/' :: '/' :: '/' :: _ => "/"
  | '/' :: '/' :: _ => "//"
  | '/' :: _ => "/"
  | _ => ""

/-- The shortest text of the same path. -/
def normalized (text : String) : String :=
  let shortest := lead text.toList ++ "/".intercalate (ofText text)
  if shortest = "" then "." else shortest

end Path

end WorkflowExpr
