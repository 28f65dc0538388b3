import WorkflowExpr.Context.Root
import WorkflowExpr.Value.Display

/-!
# Context snapshots

A snapshot gives each of the nine roots an object with text keys. It is checked once, when it is built
from the data of a host; the first issue found is reported with the place where it stands. Roots are
checked first, in their canonical order, and then the keys that are no roots, in the order of the
data.
-/

namespace WorkflowExpr

/-- The data that expressions are evaluated against. -/
structure Snapshot where
  members : Root → List (Key × Value)

/-- What is wrong with the data of a snapshot. -/
inductive SnapshotIssue where
  /-- A root is no object. -/
  | notObject (root : Root)
  /-- A key under a root is no text. -/
  | keyNotText (root : Root) (key : Key)
  /-- A key is no root. -/
  | notRoot (key : String)
  /-- A key is no text. -/
  | rootNotText (key : Key)
deriving DecidableEq

/-- How a key is named in the place of an issue. A truth value counts as a number there, and a number
with more digits than are written is not told. -/
def Key.locationText : Key → String
  | text s => s
  | boolean b => if b then "1" else "0"
  | k =>
    match HostText.key k with
    | .ok shown => shown
    | .error _ => "<unprintable int object>"

namespace SnapshotIssue

/-- The place of an issue. -/
def location : SnapshotIssue → List String
  | notObject root => [root.name]
  | keyNotText root key => [root.name, key.locationText, "[key]"]
  | notRoot key => [key]
  | rootNotText key => [key.locationText]

/-- What is wrong there. -/
def problem : SnapshotIssue → String
  | notObject _ => "Input should be a valid dictionary"
  | keyNotText _ (.bytes _) =>
    "Input should be a valid string, unable to parse raw data as a unicode string"
  | keyNotText .. => "Input should be a valid string"
  | notRoot _ => "Extra inputs are not permitted"
  | rootNotText _ => "Keys should be strings"

/-- The wording of an issue. -/
def message (issue : SnapshotIssue) : String :=
  "Invalid context at '" ++ String.intercalate "." issue.location ++ "': " ++ issue.problem

end SnapshotIssue

/-- The text that a key is; bytes are read as one where that is possible. -/
def Key.name? : Key → Option String
  | text s => some s
  | bytes bs => String.fromUTF8? ⟨(bs.map UInt8.ofNat).toArray⟩
  | _ => none

namespace Snapshot

/-- The snapshot with nothing at any root. -/
def empty : Snapshot :=
  ⟨fun _ => []⟩

/-- The issue with what the data hold at a root. -/
def rootIssue? (data : List (Key × Value)) (root : Root) : Option SnapshotIssue :=
  match Value.member? (.text root.name) data with
  | none => none
  | some (.object members) =>
    (members.find? fun entry => entry.1.name?.isNone).map fun entry => .keyNotText root entry.1
  | some _ => some (.notObject root)

/-- The issue with a key of the data. -/
def keyIssue? : Key → Option SnapshotIssue
  | .text s => if (Root.ofName? s).isSome then none else some (.notRoot s)
  | key => some (.rootNotText key)

/-- The first issue with data. -/
def issue? (data : List (Key × Value)) : Option SnapshotIssue :=
  (Root.all.findSome? (rootIssue? data)).or (data.findSome? fun entry => keyIssue? entry.1)

/-- What the data hold at a root; nothing if they do not have it. -/
def membersAt (data : List (Key × Value)) (root : Root) : List (Key × Value) :=
  match Value.member? (.text root.name) data with
  | some (.object members) =>
    Value.ofEntries (members.map fun entry => (entry.1.name?.elim entry.1 .text, entry.2))
  | _ => []

/-- The snapshot of the data of a host. -/
def ofData (data : List (Key × Value)) : Except SnapshotIssue Snapshot :=
  match issue? data with
  | some issue => .error issue
  | none => .ok ⟨membersAt data⟩

/-- The snapshot with what one root holds replaced. -/
def withRoot (s : Snapshot) (root : Root) (members : List (Key × Value)) : Snapshot :=
  ⟨fun r => if r = root then members else s.members r⟩

/-- The wording of the refusal of a name that is no root. -/
def unknownRootMessage (name : String) : String :=
  "Unknown context root '" ++ name ++ "'"

/-- The roots with their objects, in canonical order. -/
def toContext (s : Snapshot) : List (String × Value) :=
  Root.all.map fun r => (r.name, .object (s.members r))

/-- The snapshot as one object. -/
def toValue (s : Snapshot) : Value :=
  .ofFields s.toContext

end Snapshot

end WorkflowExpr
