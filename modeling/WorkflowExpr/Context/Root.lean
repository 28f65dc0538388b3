/-!
# Context roots

The nine roots at which a context may be read.
-/

namespace WorkflowExpr

/-- A context root. -/
inductive Root where
  | github
  | env
  | vars
  | secrets
  | inputs
  | runner
  | matrix
  | needs
  | strategy
deriving DecidableEq

namespace Root

/-- All roots in their canonical order. -/
def all : List Root :=
  [github, env, vars, secrets, inputs, runner, matrix, needs, strategy]

/-- The name of a root. -/
def name : Root → String
  | github => "github"
  | env => "env"
  | vars => "vars"
  | secrets => "secrets"
  | inputs => "inputs"
  | runner => "runner"
  | matrix => "matrix"
  | needs => "needs"
  | strategy => "strategy"

/-- The names of all roots. -/
def names : List String :=
  all.map name

/-- The root of that name. -/
def ofName? (s : String) : Option Root :=
  all.find? fun r => r.name == s

end Root

end WorkflowExpr
