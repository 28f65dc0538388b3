import WorkflowExpr.Failure

/-!
# Syntax faults

Why a text is no expression, and where that shows.
-/

namespace WorkflowExpr

/-- Why a text is no expression. -/
inductive SyntaxReason where
  | emptyExpression
  | unterminatedString
  | unexpectedCharacter (c : Char)
  | unexpectedToken (text : String)
  | unmatchedClosing (text : String)
  | missingClosing (closer : Char)
  | unexpectedEnd
  | tooDeep (limit : Int)
deriving DecidableEq

/-- The wording of a reason. -/
def SyntaxReason.text : SyntaxReason → String
  | emptyExpression => "Empty expression"
  | unterminatedString => "Unterminated string literal"
  | unexpectedCharacter c => "Unexpected character '" ++ String.singleton c ++ "'"
  | unexpectedToken text => "Unexpected token '" ++ text ++ "'"
  | unmatchedClosing text => "Unmatched closing '" ++ text ++ "'"
  | missingClosing closer => "Missing closing '" ++ String.singleton closer ++ "'"
  | unexpectedEnd => "Unexpected end of expression"
  | tooDeep limit => "Expression is nested too deeply (limit " ++ toString limit ++ ")"

/-- A reason with the text it is about. Past the first character the place is pointed out by a caret
under the text. -/
def pointedMessage (reason expression : String) (position : Int) : String :=
  if 0 < position ∧ expression ≠ "" then
    reason ++ " at position " ++ toString position ++ ":\n" ++ expression ++ "\n" ++
      String.ofList (List.replicate position.toNat ' ') ++ "^"
  else reason ++ ": " ++ expression

/-- A fault: its reason, the text that is no expression, and the number of characters before the
place. -/
structure SyntaxFault where
  reason : SyntaxReason
  expression : String
  position : Nat
deriving DecidableEq

/-- The wording of a fault. -/
def SyntaxFault.message (fault : SyntaxFault) : String :=
  pointedMessage fault.reason.text fault.expression fault.position

end WorkflowExpr
