import WorkflowExpr.Evaluation.Result
import WorkflowExpr.Json.Writer
import WorkflowExpr.Log.Level

/-!
# Log records

A record says what happened, how important it is, who says it, and some details by name. The settings
of a log come from the caller or from the environment.
-/

namespace WorkflowExpr.Log

/-- A record of something that happened. -/
structure Record where
  level : Level
  logger : String
  event : String
  details : List (String × Json)

namespace Record

/-- The record as one document. The three names of every record win over those of its details. -/
def toJson (r : Record) : Json :=
  .ofEntries (r.details ++ [("event", .string r.event), ("level", .string r.level.name),
    ("logger", .string r.logger)])

/-- The record of an evaluation. -/
def ofEvaluation (expression : String) (result : Except ExpressionError Evaluated) : Record :=
  let logger := "ghexpr.expressions.result"
  match result with
  | .error e =>
    ⟨.debug, logger, "expression_failed",
      [("expression", .string expression), ("kind", .string e.kind.name),
        ("error", .string e.message)]⟩
  | .ok evaluated =>
    ⟨.debug, logger, "expression_evaluated",
      [("expression", .string expression), ("type", .string evaluated.kind.name),
        ("hits", .integer evaluated.hits.length)]⟩

/-- The record as a line for people: its level, its event and its details. -/
def text (r : Record) : String :=
  String.intercalate " " (("[" ++ r.level.name ++ "]") :: r.event ::
    r.details.map fun (name, value) => name ++ "=" ++ value.compact)

end Record

/-- The environment variable that names the least level of a record that is kept. -/
def levelVariable : String := "GHEXPR_LOG_LEVEL"

/-- The environment variable that names the form of a log. -/
def formatVariable : String := "GHEXPR_LOG_FORMAT"

/-- Where records go and which are kept. -/
structure Settings where
  level : Int
  isJson : Bool
deriving DecidableEq

namespace Settings

/-- The value of an environment variable. -/
def setting? (env : List (String × String)) (name : String) : Option String :=
  (env.find? fun entry => entry.1 == name).map (·.2)

/-- Whether records are documents, as the caller asks for or the environment says. -/
def isJsonIn (env : List (String × String)) (forceJson : Bool) : Bool :=
  forceJson || Text.lower ((setting? env formatVariable).getD "") == "json"

/-- The settings from what the caller asks for, and else from the environment. -/
def ofEnvironment (env : List (String × String)) (forceJson : Bool) (level? : Option Int) :
    Except ReservedName Settings := do
  let level ← match level? with
    | some level => pure level
    | none => threshold ((setting? env levelVariable).getD "WARNING")
  return ⟨level, isJsonIn env forceJson⟩

/-- Whether a record is kept. -/
def keeps (s : Settings) (r : Record) : Bool :=
  s.level ≤ r.level.number

/-- The number of lines of a record in the form for people, where the text of the event stands as it
is. -/
def lineCount (r : Record) : Nat :=
  (r.event.toList.filter (· == '\n')).length + 1

/-- What a log shows of records, one document a line. The form for people shows no fields. -/
def shown (s : Settings) (records : List Record) : List Json :=
  let kept := records.filter s.keeps
  if s.isJson then kept.map Record.toJson
  else kept.flatMap fun r => List.replicate (lineCount r) (.object [])

/-- The texts of records, one for each record. -/
def lines (isJson : Bool) (records : List Record) : List String :=
  records.map fun r => if isJson then r.toJson.compact else r.text

end Settings

end WorkflowExpr.Log
