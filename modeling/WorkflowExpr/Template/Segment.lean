import WorkflowExpr.Expr.Lexeme

/-!
# Templates

A template is a text with placeholders in it. A placeholder starts with a dollar sign and two opening
braces and ends with the first two closing braces that do not stand inside a string literal. A literal
that never ends does not hide the braces after it. A placeholder that never ends is plain text, and so
is everything after it.
-/

namespace WorkflowExpr

/-- What opens a placeholder. -/
def opening : List Char := ['$', '\x7b', '\x7b']

/-- The number of characters up to the end of the first two closing braces. -/
def firstClosing? : List Char → Option Nat
  | '\x7d' :: '\x7d' :: _ => some 2
  | _ :: rest => (firstClosing? rest).map (· + 1)
  | [] => none

/-- The number of characters up to the end of the first two closing braces outside string literals. -/
def closing? (cs : List Char) : Option Nat :=
  match cs with
  | '\x7d' :: '\x7d' :: _ => some 2
  | c :: rest =>
    if Lexeme.isQuote c then
      match Lexeme.afterQuote? true c rest with
      | some body => (closing? (rest.drop body.length)).map (· + (body.length + 1))
      | none => firstClosing? (c :: rest)
    else (closing? rest).map (· + 1)
  | [] => none
termination_by cs.length

/-- A part of a template. -/
inductive Segment where
  | text (chars : List Char)
  | placeholder (chars : List Char)
deriving DecidableEq

/-- The characters of a segment. -/
def Segment.chars : Segment → List Char
  | text cs => cs
  | placeholder cs => cs

/-- The plain text before the first placeholder, and the length of the placeholder after its opening
braces if there is one. -/
def untilPlaceholder : List Char → List Char × Option Nat
  | [] => ([], none)
  | c :: rest =>
    if opening.isPrefixOf (c :: rest) then
      match closing? ((c :: rest).drop 3) with
      | some n => ([], some n)
      | none => (c :: rest, none)
    else
      let (before, length) := untilPlaceholder rest
      (c :: before, length)

/-- Cuts a template into plain texts and placeholders, starting with a plain text. -/
def segments (cs : List Char) : List Segment :=
  match cs with
  | [] => [.text []]
  | c :: rest =>
    match untilPlaceholder (c :: rest) with
    | (before, none) => [.text before]
    | (before, some n) =>
      .text before :: .placeholder (((c :: rest).drop before.length).take (n + 3)) ::
        segments ((c :: rest).drop (before.length + (n + 3)))
termination_by cs.length

/-- The placeholders of a template, each from its opening to its closing braces. -/
def placeholders (cs : List Char) : List (List Char) :=
  (segments cs).filterMap fun segment =>
    match segment with
    | .text _ => none
    | .placeholder chars => some chars

/-- Where placeholders start and end among segments that have `position` characters before them. -/
def spansFrom (position : Nat) : List Segment → List (Nat × Nat)
  | [] => []
  | .text chars :: rest => spansFrom (position + chars.length) rest
  | .placeholder chars :: rest =>
    (position, position + chars.length) :: spansFrom (position + chars.length) rest

/-- Where the placeholders of a template start and end. -/
def spans (cs : List Char) : List (Nat × Nat) :=
  spansFrom 0 (segments cs)

end WorkflowExpr
