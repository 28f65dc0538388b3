/-!
# Binary operators

Four comparisons of order, two of equality, and the two logical operators, which return one of their
operands.
-/

namespace WorkflowExpr

/-- A comparison of order. -/
inductive Relation where
  | less
  | atMost
  | greater
  | atLeast
deriving DecidableEq

/-- How a comparison of order is written. -/
def Relation.symbol : Relation → String
  | less => "<"
  | atMost => "<="
  | greater => ">"
  | atLeast => ">="

/-- An operator between two expressions. -/
inductive Operator where
  | or
  | and
  | equal
  | notEqual
  | relation (r : Relation)
deriving DecidableEq

/-- How an operator is written. -/
def Operator.symbol : Operator → String
  | or => "||"
  | and => "&&"
  | equal => "=="
  | notEqual => "!="
  | relation r => r.symbol

/-- The operator written so. -/
def Operator.ofSymbol? (s : String) : Option Operator :=
  [or, and, equal, notEqual, relation .less, relation .atMost, relation .greater,
    relation .atLeast].find? fun op => op.symbol == s

end WorkflowExpr
