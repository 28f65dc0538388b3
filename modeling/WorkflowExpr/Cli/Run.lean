import WorkflowExpr.Cli.Command
import WorkflowExpr.Cli.Journal
import WorkflowExpr.Cli.Report
import WorkflowExpr.Config.Load
import WorkflowExpr.Evaluation.Render
import WorkflowExpr.Example.Sample

/-!
# Running commands

What a command line yields: an exit status, what is printed, the records that are logged, and an error
if there is one. The status is 0 for success, 1 for an expression without a value, and 2 for a wrong
use or configuration.
-/

namespace WorkflowExpr.Cli

/-- What is printed. -/
inductive Printed where
  | help
  | text (s : String)
deriving DecidableEq

/-- What is said about an error. -/
inductive Notice where
  | nothing
  /-- How to use the program, after a wrong use. -/
  | usage
  /-- The text of an error that the program reports. -/
  | error (text : String)
  /-- An error that the program does not expect. -/
  | fault (text : String)
deriving DecidableEq

/-- What a command line yields. -/
structure Outcome where
  exit : Nat
  printed : Printed
  records : List Log.Record
  notice : Notice

namespace Outcome

/-- A success that prints a text. -/
def success (text : String) : Outcome :=
  ⟨0, .text text, [], .nothing⟩

/-- A success that prints how to use a command. -/
def help : Outcome :=
  ⟨0, .help, [], .nothing⟩

/-- A wrong use. -/
def wrongUse : Outcome :=
  ⟨2, .text "", [], .usage⟩

/-- An error that is reported. -/
def error (exit : Nat) (text : String) : Outcome :=
  ⟨exit, .text "", [], .error text⟩

/-- An error that is not expected. -/
def fault (text : String) : Outcome :=
  ⟨1, .text "", [], .fault text⟩

/-- The outcome with records in front. -/
def after (records : List Log.Record) (o : Outcome) : Outcome :=
  { o with records := records ++ o.records }

end Outcome

/-- The version of the program. -/
def versionText : String := "ghexpr, version 0.1.0"

/-- What all commands share: where they run, the configuration, and the level of the log. -/
structure Setup where
  host : Host
  config : Config
  level : Int

namespace Setup

/-- The level of the log: that of the configuration, unless options ask for less or more. -/
def levelOf (config : Config) (isQuiet : Bool) (verbose : Nat) : Int :=
  if isQuiet then Log.Level.error.number
  else match verbose with
    | 0 => config.verbosity.level.number
    | 1 => Log.Level.info.number
    | _ => Log.Level.debug.number

/-- Prints an error with the lines broken at the width of the terminal. -/
def refuse (s : Setup) (exit : Nat) (message : String) (details : List String) (suggestion : String) :
    Outcome :=
  .error exit (Screen.printed s.host.lineWidth (errorText message details suggestion))

/-- Goes on with the context that was chosen; the configured file is used where none is. -/
def withContext (s : Setup) (choice : ContextChoice) (suggestion : String)
    (next : Snapshot → Outcome) : Outcome :=
  if choice.useSample then next Sample.snapshot
  else match choice.file?.or s.config.contextFile? with
    | none => next .empty
    | some path =>
      if s.host.refuses path then .fault (FileTree.refusalMessage path)
      else match ContextFile.read (s.host.text? path) with
        | .ok file => (next file.snapshot).after [contextRecord path file]
        | .error (.misfit cause) => .fault cause.message
        | .error issue => s.refuse 2 (issue.message path) [] suggestion

/-- The directory in which files are hashed, if the path leads anywhere. -/
def workspace? (s : Setup) (path : String) : Except HostLimit (Option Workspace) :=
  if s.host.refuses path then .error (.path path)
  else .ok ((s.host.reach? path).map fun (place, _) => ⟨s.host.tree, place⟩)

/-- The environment of an evaluation. -/
def environment (s : Setup) (context : Snapshot) (status : Conclusion) (root? : Option String) :
    Environment :=
  { context := context.toContext
    host := ⟨some status.status, root?.map fun root patterns => do
      match ← s.workspace? root with
      | some w => w.digest? patterns
      | none => return none⟩ }

/-- The records of the requests for hashes. -/
def requestRecords (s : Setup) (root? : Option String) (requests : List (List String)) :
    List Log.Record :=
  root?.elim [] fun root => requests.flatMap (hashRecords root (s.workspace? root))

/-- Evaluates an expression and prints its value. -/
def eval (s : Setup) (expression : String) (choice : ContextChoice) (status? : Option Conclusion)
    (root? : Option String) (format : Format) : Outcome :=
  s.withContext choice "Pass --sample to use the sample context" fun context =>
    let root? := root?.or s.config.workspace?
    let env := s.environment context (status?.getD s.config.status) root?
    let evaluated := env.evaluateText expression s.config.maxDepth
    let requested := s.requestRecords root? evaluated.requests
    match evaluated.result with
    | .error (.failed (.beyond limit) _) => (Outcome.fault limit.message).after requested
    | result =>
      let printed := match format with
        | .json => (resultJson result).map fun (j : Json) => echoed j.indented
        | .text => (resultTable result).map fun (t : Screen.Table) => t.text s.host.lineWidth
      let records := requested ++ [Log.Record.ofEvaluation expression result]
      match printed with
      | .error cause => (Outcome.fault cause.message).after records
      | .ok text => ⟨if result.toBool then 0 else 1, .text text, records, .nothing⟩

/-- Prints the tokens of an expression. -/
def tokens (s : Setup) (expression : String) : Outcome :=
  match tokenize expression with
  | .error fault => s.refuse 1 fault.message [] ""
  | .ok tokens => .success ((tokenTable tokens).text s.host.lineWidth)

/-- The requests for hashes of placeholders, up to the first one without a value. -/
def requestsOf (env : Environment) (limit : Int) : List (List Char) → List (List String)
  | [] => []
  | placeholder :: rest =>
    let evaluated := env.evaluateText (String.ofList placeholder) limit
    evaluated.requests ++ if evaluated.result.toBool then requestsOf env limit rest else []

/-- Renders a text and prints it. -/
def render (s : Setup) (text : String) (choice : ContextChoice) : Outcome :=
  s.withContext choice "" fun context =>
    let root? := s.config.workspace?
    let env := s.environment context s.config.status root?
    let requests := requestsOf env s.config.maxDepth (placeholders text.toList).eraseDups
    let outcome := match env.render text s.config.maxDepth with
      | .ok rendered => Outcome.success (echoed rendered)
      | .error (.failed (.beyond limit) _) => Outcome.fault limit.message
      | .error e => s.refuse 1 (e.kind.name ++ ": " ++ e.message) [] ""
    outcome.after (s.requestRecords root? requests)

/-- Runs examples and prints their outcomes. -/
def examples (s : Setup) (category? : Option String) : Outcome :=
  let selected := Example.ofCategory category?
  if selected.isEmpty then
    s.refuse 2 ("Unknown category '" ++ category?.getD "None" ++ "'") Example.categories
      "Use one of the categories listed above"
  else
    let env := s.environment Sample.snapshot s.config.status none
    let results := selected.map fun e => (e, (env.evaluateText e.expression s.config.maxDepth).result)
    let records := results.map fun (e, result) => Log.Record.ofEvaluation e.expression result
    match results.mapM fun (e, result) => (exampleOutcome result).map fun shown => (e, shown) with
    | .error cause => (Outcome.fault cause.message).after records
    | .ok outcomes => (Outcome.success ((exampleTable outcomes).text s.host.lineWidth)).after records

/-- Runs a command. -/
def run (s : Setup) : Command → Outcome
  | .help => .help
  | .eval expression context status? workspace? format =>
    s.eval expression context status? workspace? format
  | .tokens expression => s.tokens expression
  | .render text context => s.render text context
  | .examples category? => s.examples category?

/-- Runs a command and keeps the records that the log keeps. -/
def runLogged (s : Setup) (c : Command) : Outcome :=
  let o := s.run c
  { o with records := o.records.filter fun r => s.level ≤ r.level.number }

end Setup

/-- The name of the file with the settings of a project. -/
def projectFileName : String := "ghexpr.yaml"

/-- The places from the home directory to the file with the settings of a user. -/
def userFilePath : Path := [".config", "ghexpr", "config.yaml"]

/-- Loads the configuration; `path?` is the file that the command line names. -/
def Host.config (h : Host) (path? : Option String) : Except ConfigIssue Config := do
  let named := path?.bind fun path => if path = "" then none else some (Path.normalized path)
  if let some path := named.filter h.refuses then throw (.overlong path)
  Config.load h.refuses h.env (named.map fun path => ⟨path, h.text? path⟩)
    ⟨h.projectText ++ "/" ++ projectFileName,
      Host.textOf? (h.tree.reach? h.project [projectFileName])⟩
    ⟨h.homeText ++ "/" ++ "/".intercalate userFilePath,
      Host.textOf? (h.tree.reach? h.home userFilePath)⟩

/-- The outcome of a configuration that cannot be loaded. -/
def ConfigIssue.outcome (issue : ConfigIssue) : Outcome :=
  match issue with
  | .misfit cause => .fault cause.message
  | .keyNotText | .overlong _ => .fault issue.message
  | _ =>
    match issue.value with
    | .error limit => .fault limit.message
    | .ok value? =>
      let details := (issue.setting?.map fun s => "Field: " ++ s.name).toList ++
        (value?.map fun v => "Value: " ++ v).toList
      .error 2 (echoed (errorText issue.message details ""))

/-- Runs a command line. The configuration is loaded before the arguments of the command are read. -/
def run (h : Host) (args : List String) : Outcome :=
  match Arguments.ofList? programOptions false args with
  | none => .wrongUse
  | some a =>
    match a.given.find? fun entry => entry.1 = .version ∨ entry.1 = .help with
    | some (.version, _) => .success (echoed versionText)
    | some _ => .help
    | none =>
      let start := fun (next : Setup → Outcome) =>
        match h.config (a.value? .config) with
        | .error issue => ConfigIssue.outcome issue
        | .ok config => next ⟨h, config, Setup.levelOf config (a.has .quiet) (a.count .verbose)⟩
      match a.words with
      | [] => start fun _ => .help
      | word :: rest =>
        match CommandName.ofName? word with
        | none => .wrongUse
        | some name =>
          start fun s =>
            match Command.read? h name rest with
            | none => .wrongUse
            | some command => s.runLogged command

end WorkflowExpr.Cli
