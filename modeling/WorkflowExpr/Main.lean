import WorkflowExpr.Cli.Run

/-!
# The program

Runs a command line on the files below the working directory and prints the outcome. Everything that is
decided is decided by `Cli.run`; here files are read and texts are written.
-/

namespace WorkflowExpr.Program

/-- The environment variables that the program reads, with their values. -/
def environment : IO (List (String × String)) := do
  let settings := Setting.all.map Setting.variableName
  let names := settings ++ settings.map String.toUpper ++ [Log.formatVariable]
  names.filterMapM fun name => do
    return (← IO.getEnv name).map fun value => (name, value)

/-- The contents of a file, if it can be read. -/
def contents? (path : String) : IO (Option (List UInt8)) := do
  try
    return some (← IO.FS.readBinFile path).toList
  catch _ => return none

/-- The entries at and below an entry of the directory at a place. What cannot be read is left out. -/
partial def entriesOf (place : Path) (e : IO.FS.DirEntry) : IO (List (Path × Entry)) := do
  let here := place ++ [e.fileName]
  try
    match (← e.path.symlinkMetadata).type with
    | .dir =>
      let below ← (← e.path.readDir).toList.mapM (entriesOf here)
      return (here, .directory) :: below.flatten
    | .symlink => return [(here, .link (← IO.FS.realPath e.path).toString)]
    | .file => return [(here, .file (← IO.FS.readBinFile e.path).toList)]
    | .other => return []
  catch _ => return []

/-- Where the program runs. -/
def host : IO Cli.Host := do
  let directory ← IO.currentDir
  let project := Path.ofText directory.toString
  let below ← (← directory.readDir).toList.mapM (entriesOf project)
  let homeText := (← IO.getEnv "HOME").getD "/"
  let home := Path.ofText homeText
  let user := home ++ Cli.userFilePath
  let settings := (← contents? ("/" ++ "/".intercalate user)).map fun bytes => (user, Entry.file bytes)
  return {
    tree := ⟨(project, .directory) :: below.flatten ++ settings.toList⟩
    project := project
    projectText := directory.toString
    home := home
    homeText := homeText
    env := ← environment
    lineWidth := ((← IO.getEnv "COLUMNS").bind String.toNat?).getD 80 }

end WorkflowExpr.Program

open WorkflowExpr in
/-- Runs a command line. -/
def main (args : List String) : IO UInt32 := do
  let host ← Program.host
  let outcome := Cli.run host args
  for line in Log.Settings.lines (Log.Settings.isJsonIn host.env false) outcome.records do
    IO.eprintln line
  match outcome.notice with
  | .nothing => pure ()
  | .usage => IO.eprint Cli.helpText
  | .error text => IO.eprint text
  | .fault text => IO.eprintln text
  match outcome.printed with
  | .help => IO.print Cli.helpText
  | .text s => IO.print s
  return UInt32.ofNat outcome.exit
