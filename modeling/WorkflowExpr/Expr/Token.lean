import WorkflowExpr.Expr.Operator

/-!
# Tokens

A token is a terminal of the grammar together with the characters that spell it and the place where
it starts.
-/

namespace WorkflowExpr

/-- The terminals of the grammar. -/
inductive Terminal where
  | identifier
  | number
  | string
  | trueWord
  | falseWord
  | nullWord
  | operator (op : Operator)
  | not
  | dot
  | star
  | comma
  | openParen
  | closeParen
  | openBracket
  | closeBracket
deriving DecidableEq

/-- The kinds under which tokens are listed. -/
inductive TokenKind where
  | identifier
  | number
  | string
  | keyword
  | punctuation
  | operator
  | eof
deriving DecidableEq

/-- The name of a token kind. -/
def TokenKind.name : TokenKind → String
  | identifier => "identifier"
  | number => "number"
  | string => "string"
  | keyword => "keyword"
  | punctuation => "punctuation"
  | operator => "operator"
  | eof => "eof"

/-- The kind under which a terminal is listed. -/
def Terminal.kind : Terminal → TokenKind
  | identifier => .identifier
  | number => .number
  | string => .string
  | trueWord | falseWord | nullWord => .keyword
  | operator _ | not => .operator
  | dot | star | comma | openParen | closeParen | openBracket | closeBracket => .punctuation

/-- A token: its terminal, its characters and the number of characters before it. -/
structure Token where
  terminal : Terminal
  chars : List Char
  position : Nat
deriving DecidableEq

/-- The spelling of a token. -/
def Token.text (t : Token) : String :=
  String.ofList t.chars

end WorkflowExpr
