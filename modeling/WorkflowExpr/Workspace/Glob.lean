import WorkflowExpr.Workspace.Path

/-!
# Patterns for names and paths

In a pattern for a name `*` stands for any characters, `?` for one, and brackets for one of a class
of characters. A pattern for a path is a pattern for each of its names; the name `**` stands for any
number of directories.
-/

namespace WorkflowExpr.Glob

/-! ## Classes of characters -/

/-- A character class: ranges of characters, or all characters but those. -/
structure CharClass where
  isNegated : Bool
  ranges : List (Char × Char)
deriving DecidableEq

/-- Whether a character is in the class. -/
def CharClass.contains (k : CharClass) (c : Char) : Bool :=
  (k.ranges.any fun (low, high) => low ≤ c && c ≤ high) != k.isNegated

/-- The start of a class that no bracket can close, and the rest of the text. -/
def classStart : List Char → List Char × List Char
  | '!' :: ']' :: rest => (['!', ']'], rest)
  | '!' :: rest => (['!'], rest)
  | ']' :: rest => ([']'], rest)
  | rest => ([], rest)

/-- The body of a class and what follows the bracket that closes it. A closing bracket at the start
of the body belongs to the body. -/
def classBody? (cs : List Char) : Option (List Char × List Char) :=
  match (classStart cs).2.dropWhile (· ≠ ']') with
  | [] => none
  | _ :: after => some ((classStart cs).1 ++ (classStart cs).2.takeWhile (· ≠ ']'), after)

/-- What is left of a class behind its start is not longer than the class. -/
theorem length_classStart_le (cs : List Char) : (classStart cs).2.length ≤ cs.length := by
  unfold classStart
  split <;> simp only [List.length_cons] <;> omega

/-- What follows a class is shorter than the text it is read from. -/
theorem length_lt_of_classBody? {cs body after : List Char} (h : classBody? cs = some (body, after)) :
    after.length < cs.length := by
  unfold classBody? at h
  split at h
  · cases h
  · rename_i c tail tail_eq
    obtain ⟨-, rfl⟩ := Prod.mk.inj (Option.some.inj h)
    have suffix := (List.dropWhile_suffix (p := (· ≠ ']')) (l := (classStart cs).2)).length_le
    have step := congrArg List.length tail_eq
    have start := length_classStart_le cs
    simp only [List.length_cons] at step
    omega

/-- Cuts the body of a class at the dashes that make ranges. The first `skip` characters make none,
nor do the end of a range and the character after it, nor a dash at the end. -/
def cutAtDashes (skip : Nat) (cs : List Char) : List (List Char) :=
  match _h : (cs.drop skip).dropWhile (· ≠ '-') with
  | [] => [cs]
  | [dash] => [cs.take skip ++ (cs.drop skip).takeWhile (· ≠ '-') ++ [dash]]
  | _ :: c :: rest => (cs.take skip ++ (cs.drop skip).takeWhile (· ≠ '-')) :: cutAtDashes 2 (c :: rest)
termination_by cs.length
decreasing_by
  have step := congrArg List.length _h
  have suffix := (List.dropWhile_suffix (p := (· ≠ '-')) (l := cs.drop skip)).length_le
  simp only [List.length_cons, List.length_drop] at *
  omega

/-- Takes out the ranges that hold nothing, the last one first. -/
def withoutEmptyRanges (pieces : List (List Char)) : List (List Char) :=
  pieces.foldr (fun piece done =>
    match piece.getLast?, done with
    | some low, (high :: next) :: others =>
      if high < low then (piece.dropLast ++ next) :: others else piece :: done
    | _, _ => piece :: done) []

/-- A character of a class, or the dash of a range. -/
inductive Mark where
  | char (c : Char)
  | dash
deriving DecidableEq

/-- The pieces of the body with the dashes between them. -/
def marks (pieces : List (List Char)) : List Mark :=
  [Mark.dash].intercalate (pieces.map (List.map Mark.char))

/-- The ranges that the marks write. -/
def rangesOf : List Mark → List (Char × Char)
  | [] => []
  | .char low :: .dash :: .char high :: rest => (low, high) :: rangesOf rest
  | .char c :: rest => (c, c) :: rangesOf rest
  | .dash :: rest => ('-', '-') :: rangesOf rest

/-- The class with the given body. -/
def CharClass.ofBody (body : List Char) : CharClass :=
  let pieces := cutAtDashes (if body.head? = some '!' then 2 else 1) body
  match marks (withoutEmptyRanges pieces) with
  | .char '!' :: rest => ⟨true, rangesOf rest⟩
  | written => ⟨false, rangesOf written⟩

/-! ## Patterns for one name -/

/-- A part of a pattern for a name. -/
inductive Wildcard where
  | any
  | one
  | char (c : Char)
  | oneOf (k : CharClass)
deriving DecidableEq

/-- Reads a pattern for a name. A bracket that is not closed stands for itself. -/
def wildcards (cs : List Char) : List Wildcard :=
  match cs with
  | [] => []
  | '*' :: rest => .any :: wildcards rest
  | '?' :: rest => .one :: wildcards rest
  | '[' :: rest =>
    match _h : classBody? rest with
    | some (body, after) => .oneOf (.ofBody body) :: wildcards after
    | none => .char '[' :: wildcards rest
  | c :: rest => .char c :: wildcards rest
termination_by cs.length
decreasing_by
  all_goals try (simp only [List.length_cons]; omega)
  have := length_lt_of_classBody? _h
  simp only [List.length_cons]
  omega

/-- Whether the property holds of the list or of what is left of it behind some characters. -/
def someTail (p : List Char → Bool) : List Char → Bool
  | [] => p []
  | c :: cs => p (c :: cs) || someTail p cs

/-- Whether a name fits a pattern. -/
def fits : List Wildcard → List Char → Bool
  | [], cs => cs.isEmpty
  | .any :: rest, cs => someTail (fits rest) cs
  | _ :: _, [] => false
  | .one :: rest, _ :: cs => fits rest cs
  | .char d :: rest, c :: cs => c == d && fits rest cs
  | .oneOf k :: rest, c :: cs => k.contains c && fits rest cs

/-! ## Patterns for paths -/

/-- A part of a pattern for a path: a name, a pattern for a name, or any number of directories. -/
inductive Step where
  | name (name : String)
  | fitting (pattern : List Wildcard)
  | anyDepth

/-- Makes one star of each run of stars. -/
def foldStars : List Char → List Char
  | '*' :: '*' :: rest => foldStars ('*' :: rest)
  | c :: rest => c :: foldStars rest
  | [] => []

/-- Reads one part of a pattern for a path. Two stars mean any depth only when they are the whole
part. -/
def Step.ofText (text : String) : Step :=
  if text = "**" then .anyDepth
  else
    let folded := foldStars text.toList
    if folded.any fun c => c = '*' ∨ c = '?' ∨ c = '[' then .fitting (wildcards folded)
    else .name (String.ofList folded)

/-- Reads a pattern for a path. Any depth at the end means everything below. Nothing is selected by an
absolute pattern, by one without names, and by one that steps to the directory above. -/
def ofText? (text : String) : Option (List Step) :=
  let names := Path.ofText text
  if names = [] ∨ Path.isAbsolute text ∨ ".." ∈ names then none
  else some (names.map Step.ofText ++ if names.getLast? = some "**" then [Step.ofText "*"] else [])

end WorkflowExpr.Glob
