import WorkflowExpr.Function.Format
import WorkflowExpr.Function.Library
import WorkflowExpr.Json.Reader
import WorkflowExpr.Text.Search
import WorkflowExpr.Value.Plain

/-!
# The standard functions

The twelve functions that every expression may call: six about texts and arrays, two about JSON, four
about the status of the job, and one that hashes files.
-/

namespace WorkflowExpr

namespace Standard

/-- The argument at a position. A call with too few arguments never gets here; a missing one counts as
null. -/
def argument (args : List Value) (i : Nat) : Value :=
  args.getD i .null

/-- Whether some item is loosely equal to a value. -/
def anyEqual (value : Value) : List Value → Except Failure Bool
  | [] => .ok false
  | item :: rest => do
    if ← item.looseEquals value then return true else anyEqual value rest

/-- The texts of items. -/
def texts : List Value → Except Failure (List String)
  | [] => .ok []
  | item :: rest => do
    let s ← item.toText
    return s :: (← texts rest)

/-- Whether an array has an equal item, or a text holds another one. -/
def containsItem (search item : Value) : Except Failure Value :=
  match search with
  | .array items => do return .boolean (← anyEqual item items)
  | .object _ => .error .objectSearched
  | .foreign f => .error (.unsupported f.typeName)
  | _ => do
    let part ← item.toText
    let whole ← search.toText
    return .boolean (Text.occursIn part.toList whole.toList)

/-- Whether a text starts with another one. -/
def startsWith (text start : Value) : Except Failure Value := do
  let whole ← text.toText
  let part ← start.toText
  return .boolean (part.toList.isPrefixOf whole.toList)

/-- Whether a text ends with another one. -/
def endsWith (text ending : Value) : Except Failure Value := do
  let whole ← text.toText
  let part ← ending.toText
  return .boolean (part.toList.isSuffixOf whole.toList)

/-- A template with its placeholders replaced by the texts of values. -/
def format (template : Value) (values : List Value) : Except Failure Value := do
  let text ← template.toText
  return .string (String.ofList (← Format.substitute values text.toList))

/-- The texts of the items of an array, joined. Null joins to nothing and another scalar to its own
text. -/
def join (items : Value) (separator : Option Value) : Except Failure Value := do
  let between ← match separator with
    | some s => s.toText
    | none => pure ","
  match items with
  | .null => return .string ""
  | .array items => return .string (String.intercalate between (← texts items))
  | scalar => return .string (← scalar.toText)

/-- The JSON text of a value. -/
def toJson (value : Value) : Except Failure Value := do
  return .string (← value.toJsonText)

/-- The value that a JSON text writes, with all its numbers as doubles. -/
def fromJson (text : Value) : Except Failure Value := do
  let source := (← text.toText).toList
  match Json.read source with
  | .ok j => return .ofJson j
  | .error fault => throw (.invalidJson (fault.message source))

/-- Whether no step failed and the run was not cancelled. Without a status all is well. -/
def success (status : Option JobStatus) : Bool :=
  status.all fun s => !(s.failed || s.cancelled)

/-- Whether a step failed. -/
def failure (status : Option JobStatus) : Bool :=
  status.any (·.failed)

/-- Whether the run was cancelled. -/
def cancelled (status : Option JobStatus) : Bool :=
  status.any (·.cancelled)

/-- The hash of the files that patterns select. -/
def hashFiles (host : Capabilities) (patterns : List Value) : Reply :=
  match texts patterns with
  | .error failure => .pure (.error failure)
  | .ok patterns =>
    match host.hasher with
    | none => .pure (.error .noWorkspace)
    | some hash =>
      match hash patterns with
      | .ok (some digest) => ⟨[patterns], .ok (.string digest)⟩
      | .ok none => ⟨[patterns], .error .unreadableWorkspace⟩
      | .error limit => ⟨[patterns], .error (.beyond limit)⟩

/-- A function of its arguments alone. -/
def plain (name : String) (least : Int) (most : Option Int)
    (run : List Value → Except Failure Value) : Function :=
  ⟨name, ⟨least, most⟩, fun _ args => .pure (run args)⟩

/-- A function of the job status. -/
def ofStatus (name : String) (test : Option JobStatus → Bool) : Function :=
  ⟨name, ⟨0, some 0⟩, fun host _ => .pure (.ok (.boolean (test host.status)))⟩

/-- The library of the standard functions. -/
def library : Library :=
  ⟨[plain "contains" 2 (some 2) fun args => containsItem (argument args 0) (argument args 1),
    plain "startsWith" 2 (some 2) fun args => startsWith (argument args 0) (argument args 1),
    plain "endsWith" 2 (some 2) fun args => endsWith (argument args 0) (argument args 1),
    plain "format" 1 none fun args => format (argument args 0) (args.drop 1),
    plain "join" 1 (some 2) fun args => join (argument args 0) args[1]?,
    plain "toJSON" 1 (some 1) fun args => toJson (argument args 0),
    plain "fromJSON" 1 (some 1) fun args => fromJson (argument args 0),
    ofStatus "success" success,
    ofStatus "failure" failure,
    ofStatus "cancelled" cancelled,
    ofStatus "always" fun _ => true,
    ⟨"hashFiles", ⟨1, none⟩, hashFiles⟩]⟩

end Standard

/-- The library itself, or the standard one in the place of a library without functions. -/
def Library.orStandard (l : Library) : Library :=
  if l.functions.isEmpty then Standard.library else l

end WorkflowExpr
