import WorkflowExpr.Capability.Status
import WorkflowExpr.Failure

/-!
# Function libraries

A library holds functions by name, in the order in which they were registered. A function is given
the values of its arguments and what the host makes available. It may ask the host for the hash of
some files; what it asked for is part of its reply.
-/

namespace WorkflowExpr

/-- What the host makes available to functions. The hasher gives the hash of the files that a list of
patterns selects, or nothing when it cannot read them; beyond a limit of the host it has no answer. -/
structure Capabilities where
  status : Option JobStatus := none
  hasher : Option (List String → Except HostLimit (Option String)) := none

/-- The reply of a function: the hashes that it asked for, and its value or why it has none. -/
structure Reply where
  requests : List (List String)
  result : Except Failure Value

namespace Reply

/-- The reply of a function that asked for no hash. -/
def pure (result : Except Failure Value) : Reply :=
  ⟨[], result⟩

end Reply

/-- A function with its name and the number of arguments it takes. -/
structure Function where
  name : String
  arity : Arity
  run : Capabilities → List Value → Reply

/-- Applies a function after checking the number of arguments. -/
def Function.apply (f : Function) (host : Capabilities) (args : List Value) : Reply :=
  if f.arity.admits args.length then f.run host args
  else .pure (.error (.wrongCount f.name f.arity args.length))

/-- A library of functions, in the order of registration. -/
structure Library where
  functions : List Function

namespace Library

/-- The library without functions. -/
def empty : Library := ⟨[]⟩

/-- The function of that name that was registered. -/
def get? (l : Library) (name : String) : Option Function :=
  l.functions.find? fun f => f.name == name

/-- Whether a function of that name was registered. -/
def contains (l : Library) (name : String) : Bool :=
  (l.get? name).isSome

/-- The names in the order of registration. -/
def names (l : Library) : List String :=
  l.functions.map (·.name)

/-- The function of that name, or the failure that there is none. -/
def get (l : Library) (name : String) : Except Failure Function :=
  match l.get? name with
  | some f => .ok f
  | none => .error (.unknownFunction name l.names)

/-- Registers a function under a name that is not taken. -/
def register? (l : Library) (f : Function) : Option Library :=
  if l.contains f.name then none else some ⟨l.functions ++ [f]⟩

/-- The wording of the refusal of a taken name. -/
def takenMessage (name : String) : String :=
  "Function '" ++ name ++ "' is already registered"

end Library

end WorkflowExpr
