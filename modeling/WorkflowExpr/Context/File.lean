import WorkflowExpr.Context.Snapshot
import WorkflowExpr.Yaml.Document

/-!
# Context files

A snapshot can be written as a document: a mapping of the roots. A file that holds nothing stands for
the empty snapshot.
-/

namespace WorkflowExpr

/-- Why a file yields no snapshot. -/
inductive ContextFileIssue where
  | missing
  | malformed
  /-- A scalar of the file does not fit its tag. -/
  | misfit (cause : Yaml.Misfit)
  | notMapping
  | invalid (issue : SnapshotIssue)

namespace ContextFileIssue

/-- The wording of an issue with a file. The place of a fault in the text is not told. -/
def message (path : String) : ContextFileIssue → String
  | missing => "Context file not found: " ++ path
  | malformed => "Invalid YAML in " ++ path ++ ": "
  | misfit cause => cause.message
  | notMapping => "Context file " ++ path ++ " must contain a mapping of context roots"
  | invalid issue => issue.message ++ " in " ++ path

end ContextFileIssue

/-- A context file that was read: its snapshot, and the keys that it holds unless it holds nothing. -/
structure ContextFile where
  snapshot : Snapshot
  keys? : Option (List Key)

namespace ContextFile

/-- The file that holds nothing. -/
def empty : ContextFile :=
  ⟨.empty, none⟩

/-- Reads the text of a file; without a text there is no file. -/
def read (text? : Option String) : Except ContextFileIssue ContextFile :=
  match text? with
  | none => .error .missing
  | some text =>
    match Yaml.read text with
    | .error .malformed => .error .malformed
    | .error (.misfit cause) => .error (.misfit cause)
    | .ok none => .ok empty
    | .ok (some document) =>
      match document.value with
      | .null => .ok empty
      | .object data =>
        match Snapshot.ofData data with
        | .ok s => .ok ⟨s, some (data.map (·.1))⟩
        | .error issue => .error (.invalid issue)
      | _ => .error .notMapping

end ContextFile

/-- The snapshot that the text of a file writes; without a text there is no file. -/
def Snapshot.ofFile (text? : Option String) : Except ContextFileIssue Snapshot :=
  (ContextFile.read text?).map ContextFile.snapshot

end WorkflowExpr
