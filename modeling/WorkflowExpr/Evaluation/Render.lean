import WorkflowExpr.Evaluation.Result
import WorkflowExpr.Template.Segment

/-!
# Rendering templates

Rendering replaces each placeholder of a template by the text of its value: the string coercion of a
scalar, and the JSON text of an array or an object. A placeholder that occurs more than once is
evaluated once.
-/

namespace WorkflowExpr

/-- The text that a value is rendered as. -/
def Value.rendered (v : Value) : Except Failure String := do
  match ← v.kind with
  | .array => v.toJsonText
  | .object => v.toJsonText
  | _ => v.toText

/-- Renders segments by an evaluation of placeholders; `known` holds the texts of the placeholders that came
before. -/
def renderSegments {m : Type → Type} [Monad m] (evaluate : List Char → m String)
    (known : List (List Char × String)) : List Segment → m (List String)
  | [] => return []
  | .text chars :: rest => do
    return String.ofList chars :: (← renderSegments evaluate known rest)
  | .placeholder chars :: rest =>
    match known.find? fun entry => entry.1 == chars with
    | some (_, text) => do
      return text :: (← renderSegments evaluate known rest)
    | none => do
      let text ← evaluate chars
      return text :: (← renderSegments evaluate ((chars, text) :: known) rest)

namespace Environment

/-- The text that a placeholder is rendered as. -/
def renderPlaceholder (env : Environment) (limit : Int) (placeholder : List Char) :
    Except ExpressionError String := do
  let evaluated ← (env.evaluateText (String.ofList placeholder) limit).result
  match evaluated.value.rendered with
  | .ok text => return text
  | .error cause => throw (.failed cause none)

/-- Renders a template. -/
def render (env : Environment) (template : String) (limit : Int := defaultDepth) :
    Except ExpressionError String := do
  return String.join (← renderSegments (env.renderPlaceholder limit) [] (segments template.toList))

end Environment

end WorkflowExpr
