import WorkflowExpr.Text.Digit
import WorkflowExpr.Value.Coercion

/-!
# Format templates

A format template holds placeholders: the number of a value in braces. One pass replaces each
placeholder by the text of its value. A placeholder that names no value stays as it is, and so does
every other brace. Inserted text is not looked at again.
-/

namespace WorkflowExpr.Format

/-- The value that digits name, if there is one. Digits that are too many to name a value are not
looked at, leading zeros aside. -/
def named? (values : List Value) (digits : List Char) : Option Value :=
  let significant := digits.dropWhile (· == '0')
  if 9 < significant.length then none else values[Text.natOfDigits significant]?

/-- The digits between the braces of a placeholder that starts the text after its opening brace. -/
def digits? (cs : List Char) : Option (List Char) :=
  let digits := cs.takeWhile Text.isDigit
  match cs.drop digits.length with
  | '\x7d' :: _ => if digits = [] then none else some digits
  | _ => none

/-- What takes the place of a placeholder with the given digits. -/
def replacement (values : List Value) (digits : List Char) : Except Failure (List Char) :=
  match named? values digits with
  | some value => value.toText.map String.toList
  | none => .ok ('\x7b' :: digits ++ ['\x7d'])

/-- Replaces the placeholders of a template. -/
def substitute (values : List Value) (cs : List Char) : Except Failure (List Char) :=
  match cs with
  | [] => .ok []
  | c :: rest =>
    match if c = '\x7b' then digits? rest else none with
    | some digits => do
      let inserted ← replacement values digits
      return inserted ++ (← substitute values (rest.drop (digits.length + 1)))
    | none => do
      return c :: (← substitute values rest)
termination_by cs.length

end WorkflowExpr.Format
