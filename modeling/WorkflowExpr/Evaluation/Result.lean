import WorkflowExpr.Evaluation.Resolve
import WorkflowExpr.Expr.Parser

/-!
# Results

Evaluating a text gives either a value with its kind and the context paths that it was read from, or
one error with its kind, its message, the expression and the place in it.
-/

namespace WorkflowExpr

/-- Why a text has no value: it is no expression, or evaluating it failed. The text is known unless the
failure showed outside the evaluation itself. -/
inductive ExpressionError where
  | malformed (fault : SyntaxFault)
  | failed (cause : Failure) (expression : Option String)

namespace ExpressionError

/-- The kind of an error. -/
def kind : ExpressionError → ErrorKind
  | malformed _ => .syntaxError
  | failed cause _ => cause.kind

/-- The wording of an error. -/
def message : ExpressionError → String
  | malformed fault => fault.message
  | failed cause _ => cause.message

/-- The text that has no value. -/
def expression? : ExpressionError → Option String
  | malformed fault => some fault.expression
  | failed _ expression => expression

/-- The number of characters before the place of an error. -/
def position : ExpressionError → Nat
  | malformed fault => fault.position
  | failed .. => 0

end ExpressionError

/-- The record of an error. -/
structure ErrorInfo where
  kind : ErrorKind
  message : String
  expression : String
  position : Int

/-- The record of an error; a text that is not known is empty. -/
def ExpressionError.info (e : ExpressionError) : ErrorInfo :=
  ⟨e.kind, e.message, e.expression?.getD "", e.position⟩

/-- A value with the context paths that were consumed for it, in the order of the first time. -/
structure Evaluated where
  value : Value
  kind : Kind
  hits : List String

/-- What an evaluation yields, and the hashes it asked the host for. -/
structure Outcome where
  result : Except ExpressionError Evaluated
  requests : List (List String)

namespace Environment

/-- Evaluates an expression that was read from `source`. A value without kind is refused at the
end. -/
def evaluate (env : Environment) (e : Expr) (source : Option String) : Outcome :=
  match (consume env e).run .empty with
  | (.error cause, trace) => ⟨.error (.failed cause source), trace.requests⟩
  | (.ok value, trace) =>
    match value.kind with
    | .error cause => ⟨.error (.failed cause none), trace.requests⟩
    | .ok kind => ⟨.ok ⟨value, kind, trace.hits⟩, trace.requests⟩

/-- Evaluates a text, with or without the braces of a placeholder around it. -/
def evaluateText (env : Environment) (text : String) (limit : Int := defaultDepth) : Outcome :=
  match parse text limit with
  | .error fault => ⟨.error (.malformed fault), []⟩
  | .ok parsed => env.evaluate parsed.root (some parsed.source)

end Environment

end WorkflowExpr
