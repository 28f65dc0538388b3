import WorkflowExpr.Context.File
import WorkflowExpr.Log.Record
import WorkflowExpr.Workspace.Selection

/-!
# Journal

The records of what a command does besides evaluating: reading a context file and hashing files.
-/

namespace WorkflowExpr.Cli

/-- The record of a context file that was read. -/
def contextRecord (path : String) (file : ContextFile) : Log.Record :=
  let logger := "ghexpr.context"
  match file.keys? with
  | none => ⟨.warning, logger, "context_file_empty", [("path", .string path)]⟩
  | some keys =>
    let roots := sortNames (keys.map Key.display)
    ⟨.debug, logger, "context_loaded",
      [("path", .string path), ("roots", .array (roots.map .string))]⟩

/-- A pattern without the mark that takes its matches out. -/
def positive (pattern : String) : String :=
  match pattern.toList with
  | '!' :: rest => String.ofList rest
  | _ => pattern

/-- The records of a request for the hash of files; `root` is the directory as it was named. There are none
if it is refused. -/
def hashRecords (root : String) (workspace? : Except HostLimit (Option Workspace)) (patterns : List String) :
    List Log.Record :=
  let logger := "ghexpr.capabilities"
  let asked := ("patterns", Json.array (patterns.map .string))
  let missing : List Log.Record :=
    [⟨.debug, logger, "workspace_missing", [("root", .string root)]⟩]
  match workspace? with
  | .error _ => []
  | .ok none => missing
  | .ok (some w) =>
    if !w.isDirectory [] then missing
    else
      let skipped := ((patterns.map positive).filter fun p => (Glob.ofText? p).isNone).map fun p =>
        Log.Record.mk .debug logger "pattern_skipped" [("pattern", .string p)]
      skipped ++ match w.select patterns with
        | .error refused =>
          let path := root ++ "/" ++ "/".intercalate refused.path
          [⟨.warning, logger, "hash_files_failed",
            [("root", .string root), asked, ("error", .string (FileTree.refusalMessage path))]⟩]
        | .ok [] => []
        | .ok selected =>
          [⟨.debug, logger, "files_hashed", [("count", .integer selected.length), asked]⟩]

end WorkflowExpr.Cli
