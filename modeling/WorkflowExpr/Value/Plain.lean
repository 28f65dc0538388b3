import WorkflowExpr.Json.Writer
import WorkflowExpr.Value.Coercion

/-!
# Values as JSON

The JSON form of a value: an integer below 10^21 is written as one, whichever way the host supplied
it, and a number that JSON cannot write becomes null. Keys become names; keys that share a text become
one field. A value with something foreign inside has no JSON form.
-/

namespace WorkflowExpr

/-- The JSON form of a number. -/
def Double.toJson (x : Double) : Json :=
  if !x.isFinite then .null
  else if x.isPlainInteger then .integer x.truncate
  else .real x

namespace Value

mutual

/-- The JSON form of a value. -/
def toJson : Value → Except Failure Json
  | null => .ok .null
  | boolean b => .ok (.boolean b)
  | integer n => .ok (Double.ofInt n).toJson
  | real x => .ok x.toJson
  | string s => .ok (.string s)
  | array items => do return .array (← itemsToJson items)
  | object members => do return .ofEntries (← membersToJson members)
  | foreign f => .error f.refusal

/-- The JSON forms of the items of an array. -/
def itemsToJson : List Value → Except Failure (List Json)
  | [] => .ok []
  | item :: rest => do
    let j ← toJson item
    return j :: (← itemsToJson rest)

/-- The names and the JSON forms of the members of an object. -/
def membersToJson : List (Key × Value) → Except Failure (List (String × Json))
  | [] => .ok []
  | (key, value) :: rest => do
    if let some limit := key.limit? then throw (.beyond limit)
    let j ← toJson value
    return (key.display, j) :: (← membersToJson rest)

end

/-- The compact JSON text of a value. -/
def toJsonText (v : Value) : Except Failure String := do
  return (← v.toJson).compact

mutual

/-- The JSON form of a value with numbers as the host supplied them; the name of the type of something
foreign inside that has none. -/
def asSupplied : Value → Except String Json
  | null => .ok .null
  | boolean b => .ok (.boolean b)
  | integer n => .ok (.integer n)
  | real x => .ok (.real x)
  | string s => .ok (.string s)
  | array items => do return .array (← itemsAsSupplied items)
  | object members => do return .ofEntries (← membersAsSupplied members)
  | foreign f => .error f.typeName

/-- The JSON forms of the items of an array as supplied. -/
def itemsAsSupplied : List Value → Except String (List Json)
  | [] => .ok []
  | item :: rest => do
    let j ← asSupplied item
    return j :: (← itemsAsSupplied rest)

/-- The names and the JSON forms of the members of an object as supplied. -/
def membersAsSupplied : List (Key × Value) → Except String (List (String × Json))
  | [] => .ok []
  | (key, value) :: rest => do
    let j ← asSupplied value
    return (key.display, j) :: (← membersAsSupplied rest)

end

mutual

/-- The value of a JSON document. -/
def ofJson : Json → Value
  | .null => null
  | .boolean b => boolean b
  | .integer n => integer n
  | .real x => real x
  | .string s => string s
  | .array items => array (ofJsonItems items)
  | .object fields => object (ofJsonFields fields)

/-- The values of the items of an array. -/
def ofJsonItems : List Json → List Value
  | [] => []
  | item :: rest => ofJson item :: ofJsonItems rest

/-- The members for the fields of an object. -/
def ofJsonFields : List (String × Json) → List (Key × Value)
  | [] => []
  | (name, value) :: rest => (.text name, ofJson value) :: ofJsonFields rest

end

end Value

end WorkflowExpr
