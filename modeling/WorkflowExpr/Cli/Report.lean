import WorkflowExpr.Evaluation.Result
import WorkflowExpr.Example.Catalogue
import WorkflowExpr.Expr.Parser
import WorkflowExpr.Json.Writer
import WorkflowExpr.Screen.Table

/-!
# Reports

What the commands print: errors with details and a suggestion, results as JSON or as a table, tokens,
and examples.
-/

namespace WorkflowExpr.Cli

/-- The text of an error, with its details and a suggestion if there is one. -/
def errorText (message : String) (details : List String) (suggestion : String) : String :=
  String.intercalate "\n"
    (("Error: " ++ message) :: details.map (fun line => "  " ++ line) ++
      if suggestion = "" then [] else ["Suggestion: " ++ suggestion])

/-- How to use the program. -/
def helpText : String :=
  String.intercalate "\n"
    ["Usage: ghexpr [OPTIONS] COMMAND [ARGS]...", "",
      "Options:",
      "  -c, --config PATH  The file with the settings",
      "  -v, --verbose      Log more; twice for everything",
      "  -q, --quiet        Log errors only",
      "  --version          Print the version",
      "  --help             Print this text", "",
      "Commands:",
      "  eval EXPRESSION    Evaluate an expression",
      "  tokens EXPRESSION  Print the tokens of an expression",
      "  render TEXT        Replace the placeholders of a text",
      "  examples           Run the examples", ""]

/-- Whether the character may be a parameter of a style. -/
def isStyleParameter (c : Char) : Bool :=
  c == ';' || c == '?' || c.isDigit

/-- The text without the sequences that set colours and styles: an escape, a bracket, parameters and a
letter. -/
def withoutStyles (cs : List Char) : List Char :=
  match cs with
  | [] => []
  | '\x1b' :: '[' :: rest =>
    match _h : rest.dropWhile isStyleParameter with
    | c :: behind =>
      if c.isAlpha then withoutStyles behind else '\x1b' :: '[' :: withoutStyles rest
    | [] => '\x1b' :: '[' :: rest
  | c :: rest => c :: withoutStyles rest
termination_by cs.length
decreasing_by
  · have behind := (List.dropWhile_suffix (p := isStyleParameter) (l := rest)).length_le
    simp only [_h, List.length_cons] at behind ⊢
    omega
  · simp only [List.length_cons]; omega
  · simp only [List.length_cons]; omega

/-- A line as it is echoed. -/
def echoed (text : String) : String :=
  String.ofList (withoutStyles text.toList) ++ "\n"

/-- A result as one document. -/
def resultJson (result : Except ExpressionError Evaluated) : Except Failure Json :=
  let fields := fun value kind hits error => Json.object
    [("value", value), ("type", .string kind), ("contextHits", .array (hits.map .string)),
      ("error", error)]
  match result with
  | .error e =>
    .ok (fields .null "error" []
      (.object [("kind", .string e.kind.name), ("message", .string e.message)]))
  | .ok evaluated => do
    return fields (← evaluated.value.toJson) evaluated.kind.name evaluated.hits .null

/-- A result as a table of two columns. -/
def resultTable (result : Except ExpressionError Evaluated) : Except Failure Screen.Table := do
  let rows ← match result with
    | .error e => pure [["Error", e.kind.name], ["Message", e.message]]
    | .ok evaluated => do
      let hits := if evaluated.hits = [] then "(none)" else String.intercalate ", " evaluated.hits
      pure [["Value", ← evaluated.value.toJsonText], ["Type", evaluated.kind.name], ["Context", hits]]
  return ⟨none, [⟨"Field", false, .ellipsis⟩, ⟨"Value", false, .fold⟩], rows⟩

/-- The tokens of an expression as a table. -/
def tokenTable (tokens : List ListedToken) : Screen.Table :=
  ⟨some "Tokens",
    [⟨"Position", true, .ellipsis⟩, ⟨"Kind", false, .ellipsis⟩, ⟨"Text", false, .ellipsis⟩],
    tokens.map fun t => [toString t.position, t.kind.name, t.text]⟩

/-- What an example yields: the JSON text of its value, or its error. -/
def exampleOutcome (result : Except ExpressionError Evaluated) : Except Failure String :=
  match result with
  | .error e => .ok (e.kind.name ++ ": " ++ e.message)
  | .ok evaluated => evaluated.value.toJsonText

/-- Examples with their outcomes as a table. -/
def exampleTable (outcomes : List (Example × String)) : Screen.Table :=
  ⟨some "Expression examples",
    [⟨"Category", false, .ellipsis⟩, ⟨"Title", false, .ellipsis⟩, ⟨"Expression", false, .fold⟩,
      ⟨"Result", false, .fold⟩],
    outcomes.map fun (e, outcome) => [e.category, e.title, e.expression, outcome]⟩

end WorkflowExpr.Cli
