import WorkflowExpr.Value.Limit
import WorkflowExpr.Workspace.Path

/-!
# File trees

A tree of files is the list of its entries. A place above an entry is a directory, whether it has an
entry of its own or not, and nothing stands below a file or a link. Following names from a place to
another takes links on the way to their targets. A name that is too long is not looked up.
-/

namespace WorkflowExpr

/-- The greatest number of bytes of a name. -/
def nameLimit : Nat := 255

/-- The greatest number of bytes of the text of a path. -/
def pathLimit : Nat := 4095

/-- What stands at a place. The target of a link is kept as it was written. -/
inductive Entry where
  | file (bytes : List UInt8)
  | directory
  | link (target : String)

/-- Whether the entry is a directory. -/
def Entry.isDirectory : Entry → Bool
  | .directory => true
  | _ => false

/-- A tree of files, as the places that have an entry. A place is the way to it from the top. -/
structure FileTree where
  entries : List (Path × Entry)

namespace FileTree

/-- Whether a file or a link stands on the way to a place. -/
def isBlocked (t : FileTree) (place : Path) : Bool :=
  t.entries.any fun (p, entry) => p.isPrefixOf place && p != place && !entry.isDirectory

/-- What stands at a place, with links not followed. -/
def at? (t : FileTree) (place : Path) : Option Entry :=
  if t.isBlocked place then none
  else match t.entries.find? fun (p, _) => p == place with
    | some (_, entry) => some entry
    | none => if place = [] ∨ t.entries.any fun (p, _) => place.isPrefixOf p then some .directory else none

/-- The names in a directory. -/
def names (t : FileTree) (place : Path) : List String :=
  (t.entries.filterMap fun (p, _) =>
    if place.isPrefixOf p then (p.drop place.length).head? else none).eraseDups

/-- The directories at and below a place that are reached without a link, each as the names that lead
there from the place. -/
def directoriesBelow (t : FileTree) (place : Path) : List Path :=
  let ways := t.entries.flatMap fun (p, _) =>
    if place.isPrefixOf p then
      (List.range (p.length - place.length + 1)).map fun n => (p.drop place.length).take n
    else []
  ([] :: ways).eraseDups.filter fun way => (t.at? (place ++ way)).any Entry.isDirectory

/-- Follows names from a place, with at most `links` links on the way. An empty name and a single dot
stay in a directory, two dots go to the one above, if there is one, and the target of a link counts from
the top if it is absolute and else from the directory of the link. -/
def follow (t : FileTree) (links : Nat) (place : Path) (names : Path) : Option Path :=
  match names with
  | [] => some place
  | name :: rest =>
    match t.at? place with
    | some .directory =>
      if name = "" ∨ name = "." then t.follow links place rest
      else if name = ".." then
        t.follow links place.dropLast rest
      else match t.at? (place ++ [name]) with
        | some (.link target) =>
          match links with
          | 0 => none
          | links + 1 =>
            let start := if Path.isAbsolute target then [] else place
            t.follow links start (Path.steps target ++ rest)
        | some _ => t.follow links (place ++ [name]) rest
        | none => none
    | _ => none
termination_by (links, names.length)

/-- The number of links that following a path may take. -/
def linkLimit : Nat := 40

/-- What the names lead to, with every link followed: the place and its entry. -/
def reach? (t : FileTree) (place : Path) (names : Path) : Option (Path × Entry) :=
  (t.follow linkLimit place names).bind fun found => (t.at? found).map fun entry => (found, entry)

/-- Whether following names from a place comes to a directory in which a name is asked for that is too
long. -/
def meetsOverlong (t : FileTree) (links : Nat) (place : Path) (names : Path) : Bool :=
  match names with
  | [] => false
  | name :: rest =>
    match t.at? place with
    | some .directory =>
      if name = "" ∨ name = "." then t.meetsOverlong links place rest
      else if name = ".." then t.meetsOverlong links place.dropLast rest
      else if nameLimit < name.utf8ByteSize then true
      else match t.at? (place ++ [name]) with
        | some (.link target) =>
          match links with
          | 0 => false
          | links + 1 =>
            let start := if Path.isAbsolute target then [] else place
            t.meetsOverlong links start (Path.steps target ++ rest)
        | some _ => t.meetsOverlong links (place ++ [name]) rest
        | none => false
    | _ => false
termination_by (links, names.length)

/-- Whether the text of a path is refused: it is too long, or a name on the way is. A text with a null
character is not looked at. -/
def refuses (t : FileTree) (place : Path) (text : String) : Bool :=
  !text.toList.contains '\x00' &&
    (pathLimit < text.utf8ByteSize ||
      t.meetsOverlong linkLimit (if Path.isAbsolute text then [] else place) (Path.steps text))

/-- The wording of the refusal of a path. -/
def refusalMessage (path : String) : String :=
  (HostLimit.path path).message

/-- Whether the names lead to a directory. -/
def reachesDirectory (t : FileTree) (place : Path) (names : Path) : Bool :=
  (t.reach? place names).any fun (_, entry) => entry.isDirectory

end FileTree

end WorkflowExpr
