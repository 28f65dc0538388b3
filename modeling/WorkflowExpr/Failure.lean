import WorkflowExpr.Value.Basic
import WorkflowExpr.Expr.Operator

/-!
# Why an evaluation fails

Each way in which the evaluation of an expression can fail is a cause. Its wording and the kind under
which it is reported are functions of the cause.
-/

namespace WorkflowExpr

/-- The eight kinds under which a failure is reported. -/
inductive ErrorKind where
  | syntaxError
  | unknownContext
  | unknownProperty
  | unknownFunction
  | arity
  | type
  | json
  | capabilityUnavailable
deriving DecidableEq

/-- The name of an error kind. -/
def ErrorKind.name : ErrorKind → String
  | syntaxError => "SyntaxError"
  | unknownContext => "UnknownContext"
  | unknownProperty => "UnknownProperty"
  | unknownFunction => "UnknownFunction"
  | arity => "ArityError"
  | type => "TypeError"
  | json => "JSONError"
  | capabilityUnavailable => "CapabilityUnavailable"

/-- How many arguments a function takes. A host may register any numbers. -/
structure Arity where
  least : Int
  most : Option Int
deriving DecidableEq

namespace Arity

/-- Whether the function takes that many arguments. -/
def admits (a : Arity) (count : Nat) : Bool :=
  a.least ≤ count && a.most.all fun (most : Int) => (count : Int) ≤ most

/-- A count with its noun. -/
def counted (n : Int) : String :=
  toString n ++ if n = 1 then " argument" else " arguments"

/-- The range in words. -/
def describe (a : Arity) : String :=
  match a.most with
  | none => "at least " ++ counted a.least
  | some most =>
    if a.least = most then
      if most = 0 then "no arguments" else "exactly " ++ counted most
    else toString a.least ++ " to " ++ toString most ++ " arguments"

end Arity

/-- Names in the order of their code points. -/
def sortNames (names : List String) : List String :=
  names.mergeSort fun a b => decide (a ≤ b)

/-- A message with the names that were there to choose from, if there were any. -/
def withAvailable (message : String) (names : List String) : String :=
  if names.isEmpty then message
  else message ++ " (available: " ++ String.intercalate ", " (sortNames names) ++ ")"

/-- The cause of a failed evaluation. -/
inductive Failure where
  /-- A value without kind stands where a kind is needed. -/
  | unsupported (typeName : String)
  /-- An array or object stands where a number is needed. -/
  | noNumber (kind : Kind)
  /-- An array or object stands where a text is needed. -/
  | noText (kind : Kind)
  /-- The name is no context root. -/
  | unknownContext (name : String) (roots : List String)
  /-- The object has no such member. -/
  | unknownProperty (name : String) (owner : Option String) (available : List String)
  /-- A member of a scalar was asked for. -/
  | noProperties (name : String) (kind : Kind) (owner : Option String)
  /-- An element of something else than an array was asked for. -/
  | noElements (kind : Kind)
  /-- The index is no finite number. -/
  | indexNotFinite (index : String)
  /-- The array has no such element. -/
  | indexOutOfRange (index : Int) (length : Nat)
  /-- No function has the name. -/
  | unknownFunction (name : String) (available : List String)
  /-- The function does not take that many arguments. -/
  | wrongCount (name : String) (arity : Arity) (count : Nat)
  /-- An object was searched. -/
  | objectSearched
  /-- An array or object was compared by order. -/
  | noOrder (kind : Kind) (relation : Relation)
  /-- Something that is no number was compared by order. -/
  | notComparable (value : String) (relation : Relation)
  /-- The text is no JSON document. -/
  | invalidJson (reason : String)
  /-- Files are to be hashed and there is no workspace. -/
  | noWorkspace
  /-- Files are to be hashed and the workspace cannot be read. -/
  | unreadableWorkspace
  /-- A tree holds something that is no expression. -/
  | unknownNode (typeName : String)
  /-- A limit of the host, which is no fault of the expression. -/
  | beyond (limit : HostLimit)
deriving DecidableEq

namespace Failure

/-- The kind under which the cause is reported. A limit of the host counts as one of type where a kind is
asked for. -/
def kind : Failure → ErrorKind
  | unsupported .. | noNumber .. | noText .. | noElements .. | indexNotFinite .. | indexOutOfRange ..
  | objectSearched | noOrder .. | notComparable .. | beyond .. => .type
  | unknownContext .. => .unknownContext
  | unknownProperty .. | noProperties .. => .unknownProperty
  | unknownFunction .. => .unknownFunction
  | wrongCount .. => .arity
  | invalidJson .. => .json
  | noWorkspace | unreadableWorkspace => .capabilityUnavailable
  | unknownNode .. => .syntaxError

/-- A text in single quotes. -/
def inQuotes (s : String) : String :=
  "'" ++ s ++ "'"

/-- The wording of the cause. -/
def message : Failure → String
  | unsupported typeName => "Unsupported value of type " ++ typeName
  | noNumber kind => "Cannot convert " ++ kind.name ++ " to number"
  | noText kind => "Cannot convert " ++ kind.name ++ " to string; use toJSON() instead"
  | unknownContext name roots => withAvailable ("Unknown context " ++ inQuotes name) roots
  | unknownProperty name owner available =>
    withAvailable
      ("Property " ++ inQuotes name ++ " does not exist on " ++
        match owner with
        | some path => inQuotes path
        | none => "object")
      available
  | noProperties name kind owner =>
    "Cannot read property " ++ inQuotes name ++ " of " ++ kind.name ++
      match owner with
      | some path => " value " ++ inQuotes path
      | none => ""
  | noElements kind => "Cannot index " ++ kind.name ++ ": not an array"
  | indexNotFinite index => "Array index must be a number, got " ++ index
  | indexOutOfRange index length =>
    "Array index " ++ toString index ++ " out of range (length: " ++ toString length ++ ")"
  | unknownFunction name available => withAvailable ("Unknown function " ++ inQuotes name) available
  | wrongCount name arity count =>
    name ++ "() expects " ++ arity.describe ++ ", got " ++ toString count
  | objectSearched => "contains() cannot search an object"
  | noOrder kind relation => "Cannot compare " ++ kind.name ++ " with " ++ inQuotes relation.symbol
  | notComparable value relation =>
    "Cannot compare non-numeric value " ++ value ++ " with " ++ inQuotes relation.symbol
  | invalidJson reason => "fromJSON() received invalid JSON: " ++ reason
  | noWorkspace => "hashFiles() requires workspace files, but no workspace is configured"
  | unreadableWorkspace => "hashFiles() could not read the workspace"
  | unknownNode typeName => "Unknown node type: " ++ typeName
  | beyond limit => limit.message

end Failure

end WorkflowExpr
