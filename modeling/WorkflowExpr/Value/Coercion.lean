import WorkflowExpr.Failure
import WorkflowExpr.Number.Numeral

/-!
# Coercions and loose equality

Every value counts as true or false. Scalars turn into numbers and into texts; arrays and objects do
not. Loose equality compares scalars as numbers when one of them is a number and as texts otherwise,
and arrays and objects by their parts.
-/

namespace WorkflowExpr

/-- The failure where a foreign value stands and a kind is needed. -/
def Foreign.refusal (f : Foreign) : Failure :=
  match f with
  | beyond limit => .beyond limit
  | _ => .unsupported f.typeName

namespace Value

/-- The kind of a value that has one. -/
def kind (v : Value) : Except Failure Kind :=
  match v with
  | foreign f => .error f.refusal
  | null => .ok .null
  | boolean _ => .ok .boolean
  | integer _ => .ok .number
  | real _ => .ok .number
  | string _ => .ok .string
  | array _ => .ok .array
  | object _ => .ok .object

/-- Whether a number counts as true: all but zero and what is no number. -/
def isTruthyNumber (x : Double) : Bool :=
  !(x.equals .zero || x.isNaN)

/-- Whether a value counts as true. Arrays, objects and foreign values always do. -/
def isTruthy : Value → Bool
  | null => false
  | boolean b => b
  | integer n => isTruthyNumber (.ofInt n)
  | real x => isTruthyNumber x
  | string s => s != ""
  | array _ => true
  | object _ => true
  | foreign _ => true

/-- The number that a scalar stands for. -/
def toNumber : Value → Except Failure Double
  | null => .ok .zero
  | boolean b => .ok (if b then .one else .zero)
  | integer n => .ok (.ofInt n)
  | real x => .ok x
  | string s => .ok (Double.ofText s.toList)
  | array _ => .error (.noNumber .array)
  | object _ => .error (.noNumber .object)
  | foreign f => .error f.refusal

/-- The text of a host integer: its digits as long as it is exactly a double, and the text of the
nearest double from 2^53 on. -/
def integerText (n : Int) : String :=
  if n.natAbs < Nat.pow 2 53 then toString n else (Double.ofInt n).text

/-- The text that a scalar stands for. -/
def toText : Value → Except Failure String
  | null => .ok ""
  | boolean b => .ok (if b then "true" else "false")
  | integer n => .ok (integerText n)
  | real x => .ok x.text
  | string s => .ok s
  | array _ => .error (.noText .array)
  | object _ => .error (.noText .object)
  | foreign f => .error f.refusal

/-- Whether two scalars are equal: as numbers when one of them is a number, else as texts. -/
def scalarEquals (a b : Value) : Except Failure Bool :=
  if a.isNumber || b.isNumber then do
    return (← a.toNumber).equals (← b.toNumber)
  else do
    return (← a.toText) == (← b.toText)

/-- Whether two objects have equal keys. -/
def sameKeys (ms ns : List (Key × Value)) : Bool :=
  ms.length == ns.length && ms.all fun entry => (member? entry.1 ns).isSome

mutual

/-- Loose equality. Null is equal to null alone, even among foreign values; where a kind has to be
known, a foreign value is a failure. -/
def looseEquals : Value → Value → Except Failure Bool
  | null, null => .ok true
  | null, _ => .ok false
  | _, null => .ok false
  | array xs, b => do
    match ← b.kind, b with
    | .array, array ys => if xs.length == ys.length then itemsEqual xs ys else return false
    | _, _ => return false
  | object ms, b => do
    match ← b.kind, b with
    | .object, object ns => if sameKeys ms ns then membersEqual ms ns else return false
    | _, _ => return false
  | a, b => do
    let _ ← a.kind
    match ← b.kind with
    | .array => return false
    | .object => return false
    | _ => scalarEquals a b

/-- Whether items are equal one by one, up to the shorter length. -/
def itemsEqual : List Value → List Value → Except Failure Bool
  | x :: xs, y :: ys => do
    if ← looseEquals x y then itemsEqual xs ys else return false
  | _, _ => .ok true

/-- Whether each member is equal to the one of the other object under the same key. -/
def membersEqual : List (Key × Value) → List (Key × Value) → Except Failure Bool
  | (key, x) :: rest, ns => do
    match member? key ns with
    | some y => if ← looseEquals x y then membersEqual rest ns else return false
    | none => return false
  | [], _ => .ok true

end

end Value

end WorkflowExpr
