import WorkflowExpr.Config.Setting
import WorkflowExpr.Expr.Parser
import WorkflowExpr.Text.Case
import WorkflowExpr.Workspace.Tree
import WorkflowExpr.Yaml.Document

/-!
# Configuration

Settings come from environment variables, from a file that the caller names, from a file of the
project and from one of the user. Each setting is taken from the first of these that has it, and has a
default where none does. The first setting whose value is refused is reported. The workspace is looked up
while the settings are read; a path that the file system refuses ends that with a fault of its own.
-/

namespace WorkflowExpr

/-- The settings of the program. -/
structure Config where
  maxDepth : Nat
  contextFile? : Option String
  workspace? : Option String
  status : Conclusion
  verbosity : Verbosity
deriving DecidableEq

/-- A place that gives settings values, by their names. -/
abbrev Layer := List (Key × Value)

/-- A file with settings: where it stands, and its text if it exists. -/
structure ConfigFile where
  path : String
  text? : Option String

/-- Why there is no configuration. -/
inductive ConfigIssue where
  | missing (path : String)
  | malformed (path : String)
  /-- A scalar of a file does not fit its tag. -/
  | misfit (cause : Yaml.Misfit)
  | notMapping (path : String) (value : Value)
  /-- A key of a file is no text. -/
  | keyNotText
  /-- The file system refuses the path, as one with a name that is too long. -/
  | overlong (path : String)
  | refused (setting : Setting) (problem : Setting.Problem) (value : Value)

namespace ConfigIssue

/-- The wording of an issue. The place of a fault in the text of a file is not told. -/
def message : ConfigIssue → String
  | missing path => "Config file not found: " ++ path
  | malformed path => "Invalid YAML in " ++ path ++ ": "
  | misfit cause => cause.message
  | notMapping path _ => "Config file " ++ path ++ " must contain a mapping"
  | keyNotText => "keywords must be strings"
  | overlong path => FileTree.refusalMessage path
  | refused _ problem _ => "Invalid configuration: " ++ problem.message

/-- The setting that an issue is about. -/
def setting? : ConfigIssue → Option Setting
  | refused setting _ _ => some setting
  | _ => none

/-- The text of the value that an issue is about, unless that is beyond a limit of the host. -/
def value : ConfigIssue → Except HostLimit (Option String)
  | missing path => .ok (some path)
  | notMapping _ v => v.hostText.map some
  | refused _ _ .null => .ok none
  | refused _ _ v => v.hostText.map some
  | _ => .ok none

end ConfigIssue

namespace Config

/-- What a file sets; a file that does not exist or holds nothing sets nothing. -/
def layerOf (file : ConfigFile) : Except ConfigIssue Layer :=
  match file.text? with
  | none => .ok []
  | some text =>
    match Yaml.read text with
    | .error .malformed => .error (.malformed file.path)
    | .error (.misfit cause) => .error (.misfit cause)
    | .ok none => .ok []
    | .ok (some document) =>
      match document.outline with
      | .null => .ok []
      | .object members => .ok members
      | v => .error (.notMapping file.path v)

/-- What a file sets that has to exist. -/
def explicitLayer (file : ConfigFile) : Except ConfigIssue Layer :=
  if file.text?.isSome then layerOf file else .error (.missing file.path)

/-- Fails if a key of a layer is no text. -/
def checkKeys (layer : Layer) : Except ConfigIssue Unit :=
  if layer.all fun (key, _) => key matches .text _ then .ok () else .error .keyNotText

/-- What environment variables set. The case of their names does not matter; of two that differ in case
alone the last one counts. -/
def environmentLayer (env : List (String × String)) : Layer :=
  Setting.all.filterMap fun s =>
    (env.reverse.find? fun entry => Text.lower entry.1 == s.variableName).map fun entry =>
      (.text s.name, .string entry.2)

mutual

/-- A value in the place of another one. An object adds its members to those of an object. -/
def overlaid (below? : Option Value) : Value → Value
  | .object members =>
    match below? with
    | some (.object below) => .object (overlaidMembers below members)
    | _ => .object members
  | v => v

/-- Members in the place of others, wherever they have the same keys. -/
def overlaidMembers (below : List (Key × Value)) : List (Key × Value) → List (Key × Value)
  | [] => below
  | (k, v) :: rest => overlaidMembers (Value.insert k (overlaid (Value.member? k below) v) below) rest

end

/-- The first value of a setting in layers. Objects in further layers add the members that it lacks, at
any depth. -/
def setting? (layers : List Layer) (s : Setting) : Option Value :=
  (layers.filterMap (Value.member? (.text s.name))).foldl
    (fun value? below => some (value?.elim below (overlaid (some below)))) none

/-- A setting read from layers, or its default. -/
def field {α : Type} (layers : List Layer) (s : Setting) (read : Value → Except Setting.Problem α)
    (default : α) : Except ConfigIssue α :=
  match setting? layers s with
  | none => .ok default
  | some v =>
    match read v with
    | .ok a => .ok a
    | .error problem => .error (.refused s problem v)

/-- Looks up the workspace that is set, if its value is a path; whether it is there does not matter. -/
def lookUpWorkspace (refuses : String → Bool) (layers : List Layer) : Except ConfigIssue Unit :=
  match field layers .workspace Setting.pathOf none with
  | .ok (some path) => if refuses path then .error (.overlong path) else .ok ()
  | _ => .ok ()

/-- The configuration that layers give, the first of them counting most. A path that is refused comes
before any value that is. -/
def ofLayers (refuses : String → Bool) (layers : List Layer) : Except ConfigIssue Config := do
  lookUpWorkspace refuses layers
  return {
    maxDepth := ← field layers .maxDepth Setting.depthOf defaultDepth.toNat
    contextFile? := ← field layers .contextFile Setting.pathOf none
    workspace? := ← field layers .workspace Setting.pathOf none
    status := ← field layers .status Setting.statusOf .success
    verbosity := ← field layers .verbosity Setting.verbosityOf .warning }

/-- Loads the configuration from environment variables, a file that the caller names, and the files of
the project and of the user. -/
def load (refuses : String → Bool) (env : List (String × String)) (explicit? : Option ConfigFile)
    (project user : ConfigFile) : Except ConfigIssue Config := do
  let explicit ← explicit?.elim (pure []) explicitLayer
  checkKeys explicit
  let projectLayer ← layerOf project
  let userLayer ← layerOf user
  checkKeys projectLayer
  checkKeys userLayer
  ofLayers refuses [environmentLayer env, explicit, projectLayer, userLayer]

end Config

end WorkflowExpr
