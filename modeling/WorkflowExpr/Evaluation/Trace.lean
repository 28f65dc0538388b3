import WorkflowExpr.Failure

/-!
# Traces

What an evaluation leaves behind beside its value: the context paths whose values it consumed, each
once and in the order of the first time, and the hashes it asked the host for.
-/

namespace WorkflowExpr

/-- The paths consumed and the hashes asked for so far. -/
structure Trace where
  hits : List String
  requests : List (List String)

namespace Trace

/-- Nothing happened yet. -/
def empty : Trace := ⟨[], []⟩

/-- Consumes a value, which has a path if it comes from the context. -/
def record (t : Trace) : Option String → Trace
  | none => t
  | some path => if path ∈ t.hits then t else { t with hits := t.hits ++ [path] }

/-- Asks for hashes. -/
def ask (t : Trace) (requests : List (List String)) : Trace :=
  { t with requests := t.requests ++ requests }

end Trace

/-- A step of an evaluation: it goes on from a trace, and fails or yields something. The trace is kept
either way. -/
abbrev Walk (α : Type) := ExceptT Failure (StateM Trace) α

namespace Walk

/-- Consumes a value with the given path. -/
def record (path : Option String) : Walk Unit :=
  modify fun t => t.record path

/-- Asks for hashes. -/
def ask (requests : List (List String)) : Walk Unit :=
  modify fun t => t.ask requests

/-- Goes on with a result that leaves no trace. -/
def of {α : Type} (result : Except Failure α) : Walk α :=
  match result with
  | .ok a => pure a
  | .error failure => throw failure

end Walk

end WorkflowExpr
