import WorkflowExpr.Number.Text

/-!
# JSON documents

A document is null, a boolean, a number, a string, an array or an object whose fields stand in the
order in which their names first came up. An integer of any size is kept apart from a double.
-/

namespace WorkflowExpr

/-- A JSON document. -/
inductive Json where
  | null
  | boolean (b : Bool)
  | integer (n : Int)
  | real (x : Double)
  | string (s : String)
  | array (items : List Json)
  | object (fields : List (String × Json))

instance : Inhabited Json := ⟨.null⟩

namespace Json

/-- Sets a field: in the place of the one of that name, else at the end. -/
def setField (name : String) (value : Json) : List (String × Json) → List (String × Json)
  | [] => [(name, value)]
  | (n, v) :: rest => if n = name then (n, value) :: rest else (n, v) :: setField name value rest

/-- The object to which entries add up: a name keeps its first place and takes its last value. -/
def ofEntries (entries : List (String × Json)) : Json :=
  .object (entries.foldl (fun fields entry => setField entry.1 entry.2 fields) [])

end Json

end WorkflowExpr
