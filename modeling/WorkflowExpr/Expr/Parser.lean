import WorkflowExpr.Expr.Basic
import WorkflowExpr.Expr.Fault
import WorkflowExpr.Expr.Scan
import WorkflowExpr.Number.Numeral

/-!
# Parsing

Tokens are read from left to right, one step each, with a stack of the brackets that are open. Within
one bracket at most one operator of each precedence waits for its right operand, from the loosest to
the tightest: `||`, `&&`, equality, order, and any number of `!`. An operator first closes those that
bind at least as tightly as itself, so operators of one precedence associate to the left.

A step is refused exactly when no expression goes on that way. What a fault says follows from the
refused token, or from the state at the end of the text.
-/

namespace WorkflowExpr

/-- The operators in one bracket that wait for their right operand, each with its left one. -/
structure Pending where
  or : Option Expr := none
  and : Option Expr := none
  equality : Option (Bool × Expr) := none
  relation : Option (Relation × Expr) := none
  nots : Nat := 0

namespace Pending

/-- An expression under a number of negations. -/
def negate : Nat → Expr → Expr
  | 0, e => e
  | n + 1, e => .not (negate n e)

/-- The operator of equality, or of inequality. -/
def equalityOperator (isEqual : Bool) : Operator :=
  if isEqual then .equal else .notEqual

/-- Closes the negations and the comparison of order. -/
def closeRelation (p : Pending) (e : Expr) : Expr :=
  let e := negate p.nots e
  match p.relation with
  | some (r, left) => .binary (.relation r) left e
  | none => e

/-- Closes everything down to the comparison of equality. -/
def closeEquality (p : Pending) (e : Expr) : Expr :=
  let e := p.closeRelation e
  match p.equality with
  | some (isEqual, left) => .binary (equalityOperator isEqual) left e
  | none => e

/-- Closes everything down to `&&`. -/
def closeAnd (p : Pending) (e : Expr) : Expr :=
  let e := p.closeEquality e
  match p.and with
  | some left => .binary .and left e
  | none => e

/-- Closes everything. -/
def close (p : Pending) (e : Expr) : Expr :=
  let e := p.closeAnd e
  match p.or with
  | some left => .binary .or left e
  | none => e

/-- What waits after an operator that follows the operand `e`. -/
def operator (p : Pending) (e : Expr) : Operator → Pending
  | .relation r => { p with relation := some (r, p.closeRelation e), nots := 0 }
  | .equal => { or := p.or, and := p.and, equality := some (true, p.closeEquality e) }
  | .notEqual => { or := p.or, and := p.and, equality := some (false, p.closeEquality e) }
  | .and => { or := p.or, and := some (p.closeAnd e) }
  | .or => { or := some (p.close e) }

end Pending

/-- An open bracket: a group, the arguments of a call with those read so far, the last one first, or
the index of a base. -/
inductive Bracket where
  | group
  | call (name : String) (args : List Expr)
  | index (base : Expr)

/-- An open bracket with what waits outside it. -/
structure Frame where
  bracket : Bracket
  outside : Pending

/-- What was read last, and so what may come next. -/
inductive Phase where
  /-- An operand has to follow. -/
  | operand
  /-- After a name and an opening parenthesis: an argument or the end of the call. -/
  | arguments (name : String)
  /-- After a base and an opening bracket: an index or a star. -/
  | position (base : Expr)
  /-- After a base, an opening bracket and a star: the closing bracket. -/
  | star (base : Expr)
  /-- After a base and a point: a name or a star. -/
  | member (base : Expr)
  /-- After a name: a root, unless arguments follow. -/
  | name (name : String)
  /-- After an operand. -/
  | done (e : Expr)

/-- The state of a parse. The innermost bracket comes first. -/
structure ParseState where
  pending : Pending
  frames : List Frame
  phase : Phase

/-- The text with each backslash that has a character after it given way to that character. -/
def dropEscapes : List Char → List Char
  | '\\' :: c :: rest => c :: dropEscapes rest
  | c :: rest => c :: dropEscapes rest
  | [] => []

/-- The value that a string literal writes: what stands between its quotes, without the escapes. -/
def unquote (chars : List Char) : List Char :=
  dropEscapes (chars.drop 1).dropLast

/-- The literal that a token writes. -/
def Token.literal? (t : Token) : Option Value :=
  match t.terminal with
  | .number => some (.real (Double.ofText t.chars))
  | .string => some (.string (String.ofList (unquote t.chars)))
  | .trueWord => some (.boolean true)
  | .falseWord => some (.boolean false)
  | .nullWord => some .null
  | _ => none

namespace ParseState

/-- Before the first token. -/
def start : ParseState :=
  ⟨{}, [], .operand⟩

/-- Inside a bracket that was just opened. -/
def enter (s : ParseState) (bracket : Bracket) : ParseState :=
  ⟨{}, ⟨bracket, s.pending⟩ :: s.frames, .operand⟩

/-- After an operand. -/
def finish (s : ParseState) (e : Expr) : ParseState :=
  { s with phase := .done e }

/-- Reads a token where an operand has to start. -/
def stepOperand? (s : ParseState) (t : Token) : Option ParseState :=
  match t.terminal with
  | .identifier => some { s with phase := .name t.text }
  | .openParen => some (s.enter .group)
  | .not => some ⟨{ s.pending with nots := s.pending.nots + 1 }, s.frames, .operand⟩
  | _ => t.literal?.map fun value => s.finish (.literal value)

/-- Reads a token after the operand `e`. -/
def stepAfter? (s : ParseState) (e : Expr) (t : Token) : Option ParseState :=
  match t.terminal with
  | .dot => some { s with phase := .member e }
  | .openBracket => some { s with phase := .position e }
  | .operator op => some ⟨s.pending.operator e op, s.frames, .operand⟩
  | .comma =>
    match s.frames with
    | ⟨.call name args, outside⟩ :: frames =>
      some ⟨{}, ⟨.call name (s.pending.close e :: args), outside⟩ :: frames, .operand⟩
    | _ => none
  | .closeParen =>
    match s.frames with
    | ⟨.group, outside⟩ :: frames => some ⟨outside, frames, .done (s.pending.close e)⟩
    | ⟨.call name args, outside⟩ :: frames =>
      some ⟨outside, frames, .done (.call name (s.pending.close e :: args).reverse)⟩
    | _ => none
  | .closeBracket =>
    match s.frames with
    | ⟨.index base, outside⟩ :: frames =>
      some ⟨outside, frames, .done (.index base (s.pending.close e))⟩
    | _ => none
  | _ => none

/-- Reads a token. -/
def step? (s : ParseState) (t : Token) : Option ParseState :=
  match s.phase with
  | .operand => s.stepOperand? t
  | .arguments name =>
    if t.terminal = .closeParen then some (s.finish (.call name []))
    else (s.enter (.call name [])).stepOperand? t
  | .position base =>
    if t.terminal = .star then some { s with phase := .star base }
    else (s.enter (.index base)).stepOperand? t
  | .star base => if t.terminal = .closeBracket then some (s.finish (.wildcard base)) else none
  | .member base =>
    match t.terminal with
    | .identifier => some (s.finish (.property base t.text))
    | .star => some (s.finish (.wildcard base))
    | _ => none
  | .name name =>
    if t.terminal = .openParen then some { s with phase := .arguments name }
    else s.stepAfter? (.root name) t
  | .done e => s.stepAfter? e t

/-- Reads tokens up to the first one that is refused. -/
def run (s : ParseState) : List Token → Except Token ParseState
  | [] => .ok s
  | t :: rest =>
    match s.step? t with
    | some next => next.run rest
    | none => .error t

/-- The operand that was just read in full. -/
def operand? (s : ParseState) : Option Expr :=
  match s.phase with
  | .name name => some (.root name)
  | .done e => some e
  | _ => none

/-- The expression that was read, if the text may end here. -/
def result? (s : ParseState) : Option Expr :=
  match s.frames with
  | [] => s.operand?.map s.pending.close
  | _ :: _ => none

/-- The closing bracket that may come next. -/
def closer? (s : ParseState) : Option Char :=
  match s.phase with
  | .arguments _ => some ')'
  | .star _ => some ']'
  | _ =>
    match s.operand?, s.frames with
    | some _, ⟨.index _, _⟩ :: _ => some ']'
    | some _, _ :: _ => some ')'
    | _, _ => none

end ParseState

/-- The reason for a place where no token matches: a quote there opens a string that never ends. -/
def stuckReason : List Char → SyntaxReason
  | c :: _ => if Lexeme.isQuote c then .unterminatedString else .unexpectedCharacter c
  | [] => .unexpectedEnd

/-- The reason for a refused token. -/
def refusedReason (t : Token) : SyntaxReason :=
  if t.terminal = .closeParen ∨ t.terminal = .closeBracket then .unmatchedClosing t.text
  else .unexpectedToken t.text

/-- The reason for a text that ends too early. -/
def endReason (s : ParseState) : SyntaxReason :=
  match s.closer? with
  | some closer => .missingClosing closer
  | none => .unexpectedEnd

/-- Parses an unwrapped text. A refused token comes before a place further right where no token
matches. -/
def parseSource (source : List Char) : Except SyntaxFault Expr :=
  let fault := fun (reason : SyntaxReason) (position : Nat) =>
    SyntaxFault.mk reason (String.ofList source) position
  let scanned := scan source
  match ParseState.start.run scanned.tokens with
  | .error t => .error (fault (refusedReason t) t.position)
  | .ok s =>
    match scanned.stuck with
    | some rest => .error (fault (stuckReason rest) (source.length - rest.length))
    | none =>
      match s.result? with
      | some e => .ok e
      | none => .error (fault (endReason s) source.length)

/-- The nesting limit when none is given. -/
def defaultDepth : Int := 64

/-- A parsed expression with the unwrapped text it was read from. -/
structure Parsed where
  source : String
  root : Expr

/-- Parses a text, with or without the braces of a placeholder around it, up to a nesting limit. -/
def parse (text : String) (limit : Int := defaultDepth) : Except SyntaxFault Parsed :=
  let source := (unwrap text.toList).1
  if source.isEmpty then .error ⟨.emptyExpression, text, 0⟩
  else
    match parseSource source with
    | .error fault => .error fault
    | .ok e =>
      match e.measure limit with
      | some _ => .ok ⟨String.ofList source, e⟩
      | none => .error ⟨.tooDeep limit, String.ofList source, 0⟩

/-- A listed token: its kind, its spelling and the number of characters before it. -/
structure ListedToken where
  kind : TokenKind
  text : String
  position : Nat

/-- Lists the tokens of a text, with or without the braces of a placeholder around it, and then the
end of the text. -/
def tokenize (text : String) : Except SyntaxFault (List ListedToken) :=
  let source := (unwrap text.toList).1
  let scanned := scan source
  match scanned.stuck with
  | some rest =>
    .error ⟨stuckReason rest, String.ofList source, source.length - rest.length⟩
  | none =>
    .ok ((scanned.tokens.map fun t => ⟨t.terminal.kind, t.text, t.position⟩) ++
      [⟨.eof, "", source.length⟩])

end WorkflowExpr
