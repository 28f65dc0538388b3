import WorkflowExpr.Hash.Sha256
import WorkflowExpr.Workspace.Glob
import WorkflowExpr.Workspace.Tree

/-!
# Selections of files

A list of patterns selects files of a workspace: each pattern adds the files that it matches, and a
pattern that starts with `!` takes its matches out again. Only files whose real place is in the
workspace are selected. The digest of a selection is the hash of the hashes of its files in the order
of their paths. The file system refuses to look up a path with a name that is too long on its way, also
where the name comes from a link: a root that is refused ends the evaluation, and a refusal in the workspace
makes it unreadable. Of a whole path only the root is measured, not what is behind it.
-/

namespace WorkflowExpr

/-- A directory of a tree of files. -/
structure Workspace where
  tree : FileTree
  root : Path

/-- The look-up of a path in a workspace is refused: a name on its way is too long. -/
structure NameTooLong where
  path : Path

namespace Workspace

/-- What a path in the workspace leads to: the real place and its entry. -/
def reach? (w : Workspace) (path : Path) : Option (Path × Entry) :=
  w.tree.reach? w.root path

/-- Whether the path leads to a directory. -/
def isDirectory (w : Workspace) (path : Path) : Bool :=
  w.tree.reachesDirectory w.root path

/-- Whether the look-up of a path is refused. A path with a null character is not looked up. -/
def refuses (w : Workspace) (path : Path) : Bool :=
  path.all (fun name => !name.toList.contains '\x00') &&
    w.tree.meetsOverlong FileTree.linkLimit w.root path

/-- Whether a step of a pattern may end at the path: a directory when more steps follow. -/
def continues (w : Workspace) (path : Path) (rest : List Glob.Step) : Bool :=
  if rest.isEmpty then (w.reach? path).isSome else w.isDirectory path

/-- The paths that a pattern matches from a directory on. A name that is looked up as it is written must
not be refused, nor any name in the directory when it has to be known which of them are directories. -/
def paths (w : Workspace) : List Glob.Step → Path → Except NameTooLong (List Path)
  | [], here => .ok [here]
  | .name name :: rest, here =>
    if w.refuses (here ++ [name]) then .error ⟨here ++ [name]⟩
    else if w.continues (here ++ [name]) rest then w.paths rest (here ++ [name])
    else .ok []
  | .fitting pattern :: rest, here => do
    let names := (w.reach? here).elim [] fun (place, _) => w.tree.names place
    let found ← names.mapM fun name =>
      if !rest.isEmpty ∧ w.refuses (here ++ [name]) then .error ⟨here ++ [name]⟩
      else if Glob.fits pattern name.toList ∧ (rest.isEmpty ∨ w.isDirectory (here ++ [name])) then
        w.paths rest (here ++ [name])
      else .ok []
    return found.flatten
  | .anyDepth :: rest, here => do
    let ways := (w.reach? here).elim [] fun (place, _) => w.tree.directoriesBelow place
    let found ← ways.mapM fun way => w.paths rest (here ++ way)
    return found.flatten

/-- The contents of the file that the path leads to, when it really stands in the workspace. -/
def contents? (w : Workspace) (path : Path) : Option (List UInt8) :=
  match w.reach? path with
  | some (place, .file bytes) => if w.root.isPrefixOf place then some bytes else none
  | _ => none

/-- Those of the paths that lead to files in the workspace. None of them must be refused. -/
def filesAmong (w : Workspace) (paths : List Path) : Except NameTooLong (List Path) :=
  match paths.find? w.refuses with
  | some path => .error ⟨path⟩
  | none => .ok (paths.filter fun path => (w.contents? path).isSome)

/-- The files that one pattern matches. -/
def files (w : Workspace) (pattern : String) : Except NameTooLong (List Path) :=
  match Glob.ofText? pattern with
  | none => .ok []
  | some steps => do w.filesAmong (← w.paths steps [])

/-- The files selected after one more pattern. -/
def refine (w : Workspace) (selected : List Path) (pattern : String) : Except NameTooLong (List Path) :=
  match pattern.toList with
  | '!' :: rest => return selected.removeAll (← w.files (String.ofList rest))
  | _ => return selected ++ (← w.files pattern).removeAll selected

/-- Whether one path does not come after another, name by name. -/
def notAfter (p q : Path) : Bool :=
  !decide (q < p)

/-- The files that a list of patterns selects, each once and in the order of their paths. -/
def select (w : Workspace) (patterns : List String) : Except NameTooLong (List Path) :=
  return (← patterns.foldlM w.refine []).eraseDups.mergeSort notAfter

/-- The root as an absolute path. -/
def rootText (w : Workspace) : String :=
  "/" ++ "/".intercalate w.root

/-- The digest of the selected files: empty when no file is selected, and missing when the workspace
does not exist or a path in it is refused. A root that is refused has no answer at all. -/
def digest? (w : Workspace) (patterns : List String) : Except HostLimit (Option String) :=
  if w.isDirectory [] then
    match w.select patterns with
    | .error _ => .ok none
    | .ok [] => .ok (some "")
    | .ok selected =>
      .ok (some (Sha256.hexText (Sha256.digest (selected.flatMap fun path =>
        Sha256.digest ((w.contents? path).getD [])))))
  else if w.tree.refuses [] w.rootText then .error (.path w.rootText)
  else .ok none

end Workspace

end WorkflowExpr
