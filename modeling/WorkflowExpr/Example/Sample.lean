import WorkflowExpr.Context.Variable

/-!
# The sample context

A snapshot shaped like a push to the main branch on a hosted Linux runner, so that every example of
the catalogue has data to work on.
-/

namespace WorkflowExpr.Sample

/-- Members with text keys. -/
def members (fields : List (String × Value)) : List (Key × Value) :=
  fields.map fun field => (.text field.1, field.2)

/-- What the sample holds about the run and the event that started it. -/
def github : List (Key × Value) :=
  members [
    ("repository", .string "owner/repo"),
    ("repository_owner", .string "owner"),
    ("ref", .string "refs/heads/main"),
    ("sha", .string "abc123456789"),
    ("event_name", .string "push"),
    ("actor", .string "github-user"),
    ("workflow", .string "CI"),
    ("job", .string "build"),
    ("run_id", .string "1234567890"),
    ("run_number", .string "42"),
    ("run_attempt", .string "1"),
    ("api_url", .string "https://api.github.com"),
    ("server_url", .string "https://github.com"),
    ("graphql_url", .string "https://api.github.com/graphql"),
    ("workspace", .string "/github/workspace"),
    ("action", .string "__self"),
    ("head_ref", .string ""),
    ("base_ref", .string ""),
    ("token", .string "***"),
    ("env", .string "github-hosted"),
    ("path", .string ""),
    ("event", .ofFields [
      ("ref", .string "refs/heads/main"),
      ("before", .string "previous-commit-sha"),
      ("after", .string "abc123456789"),
      ("repository", .ofFields [
        ("id", .integer 123456789),
        ("name", .string "repo"),
        ("full_name", .string "owner/repo"),
        ("owner", .ofFields [
          ("login", .string "owner"),
          ("id", .integer 987654321)]),
        ("default_branch", .string "main"),
        ("private", .boolean false)]),
      ("pusher", .ofFields [
        ("name", .string "github-user"),
        ("email", .string "user@example.com")]),
      ("commits", .array [
        .ofFields [
          ("id", .string "abc123456789"),
          ("message", .string "Add new feature"),
          ("author", .ofFields [
            ("name", .string "Developer"),
            ("email", .string "dev@example.com")])]])])]

/-- The matrix of the sample. -/
def matrix : List (Key × Value) :=
  members [
    ("os", .string "ubuntu-latest"),
    ("node", .string "18"),
    ("include", .array [
      .ofFields [
        ("os", .string "ubuntu-latest"),
        ("node", .string "16")],
      .ofFields [
        ("os", .string "ubuntu-latest"),
        ("node", .string "18")],
      .ofFields [
        ("os", .string "windows-latest"),
        ("node", .string "18")]])]

/-- The jobs that the sample needs. -/
def needs : List (Key × Value) :=
  members [
    ("build", .ofFields [
      ("result", .string "success"),
      ("outputs", .ofFields [
        ("version", .string "1.2.3"),
        ("artifact_id", .string "build-123")])])]

/-- The runner of the sample. -/
def runner : List (Key × Value) :=
  members [
    ("name", .string "GitHub Actions 2"),
    ("os", .string "Linux"),
    ("arch", .string "X64"),
    ("temp", .string "/tmp"),
    ("tool_cache", .string "/opt/hostedtoolcache"),
    ("workspace", .string "/home/runner/work")]

/-- The strategy of the sample. -/
def strategy : List (Key × Value) :=
  members [
    ("fail_fast", .boolean true),
    ("job_index", .integer 0),
    ("job_total", .integer 3),
    ("max_parallel", .integer 10)]

/-- The scoped variables of the sample. -/
def declared : List Variable :=
  [⟨"NODE_VERSION", .string "18", .env, .workflow⟩,
    ⟨"APP_ENV", .string "production", .env, .workflow⟩,
    ⟨"ENVIRONMENT", .string "production", .env, .workflow⟩,
    ⟨"TEST_ENV", .string "test", .env, .job⟩,
    ⟨"DATABASE_URL", .string "postgresql://localhost:5432/test", .secrets, .step⟩,
    ⟨"DEPLOY_KEY", .string "secret-key-123", .secrets, .step⟩,
    ⟨"BRANCH_NAME", .string "main", .vars, .workflow⟩,
    ⟨"DEPLOY_ENVIRONMENTS", .string "[\"production\", \"staging\"]", .vars, .workflow⟩]

/-- The sample before its variables are layered onto it. -/
def base : Snapshot :=
  ⟨fun
    | .github => github
    | .matrix => matrix
    | .needs => needs
    | .runner => runner
    | .strategy => strategy
    | _ => []⟩

/-- The sample snapshot. -/
def snapshot : Snapshot :=
  base.withVariables declared

end WorkflowExpr.Sample
