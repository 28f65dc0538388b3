import WorkflowExpr.Context.Snapshot

/-!
# Scoped variables

A variable is declared for a workflow, a job or a step, under one of four roots. Variables are layered
onto a snapshot from the widest scope to the narrowest, in the order of declaration within a scope.
-/

namespace WorkflowExpr

/-- Where a variable is declared, from the widest scope to the narrowest. -/
inductive Scope where
  | workflow
  | job
  | step
deriving DecidableEq

namespace Scope

/-- How narrow a scope is. -/
def rank : Scope → Nat
  | workflow => 0
  | job => 1
  | step => 2

/-- The scope of that name. -/
def ofName? : String → Option Scope
  | "workflow" => some workflow
  | "job" => some job
  | "step" => some step
  | _ => none

end Scope

/-- The roots under which variables may be declared. -/
inductive VariableType where
  | env
  | vars
  | secrets
  | inputs
deriving DecidableEq

namespace VariableType

/-- The root of a type. -/
def root : VariableType → Root
  | env => .env
  | vars => .vars
  | secrets => .secrets
  | inputs => .inputs

/-- The type of that name. -/
def ofName? : String → Option VariableType
  | "env" => some env
  | "vars" => some vars
  | "secrets" => some secrets
  | "inputs" => some inputs
  | _ => none

end VariableType

/-- A declared variable. -/
structure Variable where
  name : String
  value : Value
  type : VariableType
  scope : Scope

/-- What is wrong with a declaration. -/
inductive VariableIssue where
  | nameMissing
  | nameNotText
  | nameEmpty
  | unknownType
  | unknownScope
  | unknownField (name : String)
deriving DecidableEq

namespace VariableIssue

/-- The field that an issue is about. -/
def location : VariableIssue → String
  | nameMissing | nameNotText | nameEmpty => "name"
  | unknownType => "type"
  | unknownScope => "scope"
  | unknownField name => name

/-- What is wrong with the field. -/
def problem : VariableIssue → String
  | nameMissing => "Field required"
  | nameNotText => "Input should be a valid string"
  | nameEmpty => "String should have at least 1 character"
  | unknownType => "Input should be 'env', 'vars', 'secrets' or 'inputs'"
  | unknownScope => "Input should be 'workflow', 'job' or 'step'"
  | unknownField _ => "Extra inputs are not permitted"

end VariableIssue

namespace Variable

/-- The fields of a declaration. -/
def fields : List String :=
  ["name", "value", "type", "scope"]

/-- The name that a declaration gives. -/
def nameOf : Option Value → Except VariableIssue String
  | none => .error .nameMissing
  | some (.string s) => if s = "" then .error .nameEmpty else .ok s
  | some _ => .error .nameNotText

/-- The choice that a declaration makes by name, or the one that is made without it. -/
def choiceOf {α : Type} (default : α) (ofName? : String → Option α) (issue : VariableIssue) :
    Option Value → Except VariableIssue α
  | none => .ok default
  | some (.string s) => (ofName? s).elim (.error issue) .ok
  | some _ => .error issue

/-- The issue of a result that has one. -/
def issues {α : Type} : Except VariableIssue α → List VariableIssue
  | .ok _ => []
  | .error issue => [issue]

/-- The variable that a declaration makes, or everything that is wrong with it: first the fields in
their order, then those that there are not. -/
def ofFields (given : List (String × Value)) : Except (List VariableIssue) Variable :=
  let field := fun name => (given.find? fun entry => entry.1 == name).map (·.2)
  let name := nameOf (field "name")
  let type := choiceOf .env VariableType.ofName? .unknownType (field "type")
  let scope := choiceOf .workflow Scope.ofName? .unknownScope (field "scope")
  let unknown := (given.filter fun entry => !fields.contains entry.1).map fun entry =>
    VariableIssue.unknownField entry.1
  match name, type, scope, unknown with
  | .ok name, .ok type, .ok scope, [] =>
    .ok ⟨name, (field "value").getD (.string ""), type, scope⟩
  | name, type, scope, unknown => .error (issues name ++ issues type ++ issues scope ++ unknown)

end Variable

namespace Snapshot

/-- The snapshot with a variable set. -/
def withVariable (s : Snapshot) (v : Variable) : Snapshot :=
  s.withRoot v.type.root (Value.insert (.text v.name) v.value (s.members v.type.root))

/-- The snapshot with variables layered onto it. -/
def withVariables (s : Snapshot) (declared : List Variable) : Snapshot :=
  (declared.mergeSort fun a b => a.scope.rank ≤ b.scope.rank).foldl withVariable s

end Snapshot

end WorkflowExpr
