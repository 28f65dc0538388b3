import WorkflowExpr.Capability.Status
import WorkflowExpr.Cli.Arguments
import WorkflowExpr.Workspace.Tree

/-!
# Commands

The commands and their options. A command line is read in two parts: the options of the program up to
the name of a command, and the arguments of that command. What cannot be read is a wrong use.
-/

namespace WorkflowExpr.Cli

/-- Where the program runs: the files, the places of the working directory and of the home directory
with their texts, the environment, and the number of cells of a line. -/
structure Host where
  tree : FileTree
  project : Path
  projectText : String
  home : Path
  homeText : String
  env : List (String × String)
  lineWidth : Nat

namespace Host

/-- What a path leads to, from the top if it is absolute and else from the working directory. -/
def reach? (h : Host) (path : String) : Option (Path × Entry) :=
  if path = "" then none
  else h.tree.reach? (if Path.isAbsolute path then [] else h.project) (Path.steps path)

/-- The text of the file that an entry is. -/
def textOf? : Option (Path × Entry) → Option String
  | some (_, .file bytes) => String.fromUTF8? ⟨bytes.toArray⟩
  | _ => none

/-- The text of the file that a path leads to from the working directory. -/
def text? (h : Host) (path : String) : Option String :=
  textOf? (h.reach? path)

/-- Whether a path is refused, as one with a name that is too long. -/
def refuses (h : Host) (path : String) : Bool :=
  h.tree.refuses h.project path

/-- Whether the path leads to a directory. -/
def isDirectory (h : Host) (path : String) : Bool :=
  (h.reach? path).any fun (_, entry) => entry.isDirectory

/-- Whether the path leads to a file. -/
def isFile (h : Host) (path : String) : Bool :=
  (h.reach? path).any fun (_, entry) => !entry.isDirectory

end Host

/-! ## Options of the program -/

/-- An option of the program. -/
inductive ProgramOption where
  | config
  | verbose
  | quiet
  | version
  | help
deriving DecidableEq

/-- The options of the program. -/
def programOptions : List (Opt ProgramOption) :=
  [⟨.config, "config", some 'c', true⟩, ⟨.verbose, "verbose", some 'v', false⟩,
    ⟨.quiet, "quiet", some 'q', false⟩, ⟨.version, "version", none, false⟩,
    ⟨.help, "help", none, false⟩]

/-- The form in which a result is printed. -/
inductive Format where
  | text
  | json
deriving DecidableEq

/-- The form with a name. -/
def Format.ofName? : String → Option Format
  | "text" => some text
  | "json" => some json
  | _ => none

/-- The names of the commands. -/
inductive CommandName where
  | eval
  | tokens
  | render
  | examples
deriving DecidableEq

/-- The command with a name. -/
def CommandName.ofName? : String → Option CommandName
  | "eval" => some eval
  | "tokens" => some tokens
  | "render" => some render
  | "examples" => some examples
  | _ => none

/-- Where a command takes its context from: the sample, or a file if one is named. -/
structure ContextChoice where
  useSample : Bool
  file? : Option String

/-- A command with its arguments. -/
inductive Command where
  | help
  | eval (expression : String) (context : ContextChoice) (status? : Option Conclusion)
      (workspace? : Option String) (format : Format)
  | tokens (expression : String)
  | render (text : String) (context : ContextChoice)
  | examples (category? : Option String)

/-- An option of a command. -/
inductive CommandOption where
  | context
  | sample
  | status
  | workspace
  | format
  | category
  | help
deriving DecidableEq

namespace CommandName

/-- The options of a command. -/
def options (name : CommandName) : List (Opt CommandOption) :=
  let context : List (Opt CommandOption) :=
    [⟨.context, "context", none, true⟩, ⟨.sample, "sample", none, false⟩]
  let help : List (Opt CommandOption) := [⟨.help, "help", none, false⟩]
  match name with
  | eval =>
    context ++ [⟨.status, "status", none, true⟩, ⟨.workspace, "workspace", none, true⟩,
      ⟨.format, "format", some 'f', true⟩] ++ help
  | tokens => help
  | render => context ++ help
  | examples => ⟨.category, "category", none, true⟩ :: help

end CommandName

/-- A value that may be missing but has to be read if it is there. -/
def optional? {α β : Type} (value? : Option α) (read : α → Option β) : Option (Option β) :=
  match value? with
  | none => some none
  | some a => (read a).map some

/-- The context that the options of a command choose. A directory is no context file. -/
def contextChoice? (h : Host) (a : Arguments CommandOption) : Option ContextChoice := do
  let file? ← optional? (a.value? .context) fun path =>
    if h.isDirectory path then none else some (Path.normalized path)
  return ⟨a.has .sample, file?⟩

/-- Reads the arguments of a command. -/
def Command.read? (h : Host) (name : CommandName) (args : List String) : Option Command := do
  let a ← Arguments.ofList? name.options true args
  if a.has .help then return .help
  match name, a.words with
  | .eval, [expression] => do
    let context ← contextChoice? h a
    let status? ← optional? (a.value? .status) Conclusion.ofName?
    let workspace? ← optional? (a.value? .workspace) fun path =>
      if h.isFile path then none else some (Path.normalized path)
    let format? ← optional? (a.value? .format) Format.ofName?
    return .eval expression context status? workspace? (format?.getD .text)
  | .tokens, [expression] => return .tokens expression
  | .render, [text] => do return .render text (← contextChoice? h a)
  | .examples, [] => return .examples (a.value? .category)
  | _, _ => none

end WorkflowExpr.Cli
