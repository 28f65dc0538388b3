import WorkflowExpr.Text.Case

/-!
# Example expressions

A catalogue of typical workflow expressions, grouped by category, with what each of them is for.
-/

namespace WorkflowExpr

/-- An expression of the catalogue. -/
structure Example where
  title : String
  expression : String
  purpose : String
  category : String

namespace Example

/-- The examples of one category, each given by its title, its expression and its purpose. -/
def group (category : String) (entries : List (String × String × String)) : List Example :=
  entries.map fun (title, expression, purpose) => ⟨title, expression, purpose, category⟩

/-- The whole catalogue. -/
def all : List Example :=
  group "Branch & Event"
    [("Main Branch Check",
      "github.ref == 'refs/heads/main'",
      "Check if running on main branch"),
    ("Pull Request Event",
      "github.event_name == 'pull_request'",
      "Check if triggered by pull request"),
    ("Feature Branch",
      "contains(github.ref, 'feature/')",
      "Check if on a feature branch"),
    ("Tag Check",
      "startsWith(github.ref, 'refs/tags/')",
      "Check if triggered by a tag")] ++
  group "Variables & Secrets"
    [("Environment Variable with Default",
      "env.NODE_VERSION || '16'",
      "Get NODE_VERSION or default to 16"),
    ("Secret Exists",
      "secrets.DEPLOY_KEY != ''",
      "Check if secret is set"),
    ("Format with Variables",
      "format('branch-\x7b0\x7d', vars.BRANCH_NAME)",
      "Build a name from a configuration variable")] ++
  group "String Functions"
    [("Contains Check",
      "contains(github.repository, 'octocat')",
      "Check if repository contains string"),
    ("Starts With Branch",
      "startsWith(github.ref, 'refs/heads/')",
      "Check if reference is a branch"),
    ("Ends With",
      "endsWith(github.ref, '/main')",
      "Check if ref ends with /main"),
    ("Join Commit Messages",
      "join(github.event.commits.*.message, '; ')",
      "Join the messages of all pushed commits")] ++
  group "JSON Functions"
    [("GitHub Context to JSON",
      "toJSON(github)",
      "Convert entire github context to JSON"),
    ("Event Payload to JSON",
      "toJSON(github.event)",
      "View full event payload as JSON"),
    ("Parse JSON String",
      "fromJSON('\x7b\"environment\": \"production\"\x7d')",
      "Parse JSON string to object")] ++
  group "Status Functions"
    [("Success Check",
      "success()",
      "Returns true if all previous steps succeeded"),
    ("Failure Check",
      "failure()",
      "Returns true if any previous step failed"),
    ("Always Run",
      "always()",
      "Always returns true (for cleanup steps)"),
    ("Cancelled Check",
      "cancelled()",
      "Returns true if workflow was cancelled")] ++
  group "Deep Context Access"
    [("Repository Owner",
      "github.event.repository.owner.login",
      "Access nested repository owner login"),
    ("Commit Author Email",
      "github.event.pusher.email",
      "Get the email of the person who pushed"),
    ("Runner Architecture",
      "runner.arch",
      "Get the architecture of the runner (X64, ARM64, etc.)"),
    ("Strategy Job Index",
      "strategy.job_index",
      "Get the index of the current job in a matrix"),
    ("First Matrix Entry",
      "matrix.include[0].node",
      "Read a field of the first matrix include entry")] ++
  group "Advanced JSON"
    [("Parse JSON Array String",
      "toJSON(fromJSON('[\"ubuntu-latest\", \"windows-latest\", \"macos-latest\"]'))",
      "Parse JSON array and convert back to string"),
    ("Check Array Membership",
      "contains(fromJSON('[\"push\", \"pull_request\"]'), github.event_name)",
      "Check if event is in allowed list using JSON"),
    ("Parse Config Object",
      "contains(toJSON(fromJSON('\x7b\"deploy\": true\x7d')), 'deploy')",
      "Parse JSON and check for property"),
    ("Nested JSON Object",
      "toJSON(fromJSON('\x7b\"env\": \x7b\"prod\": \"api.prod.com\"\x7d\x7d'))",
      "Parse and re-stringify nested JSON object")] ++
  group "Complex Examples"
    [("Multi-condition Branch Check",
      "github.event_name == 'push' && startsWith(github.ref, 'refs/heads/')",
      "Combine conditions to filter branch pushes"),
    ("Production Deployment Gate",
      "github.ref == 'refs/heads/main' && success()",
      "Check conditions before production deploy"),
    ("Version from Job Output",
      "format('v\x7b0\x7d-\x7b1\x7d', needs.build.outputs.version, github.run_number)",
      "Combine job output with run number for versioning"),
    ("Dynamic Environment Name",
      "format('\x7b0\x7d-\x7b1\x7d-\x7b2\x7d', matrix.os, matrix.node, github.sha)",
      "Build environment name from matrix and commit"),
    ("Branch-based Configuration",
      "contains(github.ref, 'release/') || contains(github.ref, 'main')",
      "Check if branch is a release or main branch"),
    ("Array Contains via JSON",
      "contains(fromJSON(vars.DEPLOY_ENVIRONMENTS), env.ENVIRONMENT)",
      "Check if environment is in deployment list"),
    ("Event Metadata Format",
      "format('🚀 \x7b0\x7d@\x7b1\x7d by @\x7b2\x7d', github.repository, github.sha, github.actor)",
      "Build rich deployment message with emojis"),
    ("Fallback Values",
      "env.NODE_VERSION != '' && env.NODE_VERSION || '18'",
      "Use environment variable with fallback"),
    ("Ternary Idiom",
      "github.ref == 'refs/heads/main' && 'production' || 'staging'",
      "Pick a deployment target based on the branch")]

/-- The categories in the order of the catalogue. -/
def categories : List String :=
  (all.map (·.category)).eraseDups

/-- The examples of a category, whichever way its letters are cased, or all of them. -/
def ofCategory : Option String → List Example
  | none => all
  | some category => all.filter fun e => Text.lower e.category == Text.lower category

end Example

end WorkflowExpr
