import WorkflowExpr.Value.Key

/-!
# Values

The values of the expression language are null, booleans, numbers, strings, arrays and objects. A
host supplies integers of any size and doubles, both of which are numbers. It may also supply things
that the language has no kind for; these are foreign values, most of them known by the name of their
type alone. Texts are made of characters, so half of a surrogate pair never stands in one alone.
-/

namespace WorkflowExpr

/-- Something that a host supplied and that has no kind in the language. -/
inductive Foreign where
  | date (d : Date)
  | moment (t : Moment)
  | bytes (bs : List Nat)
  | set (members : List Key)
  /-- What is beyond a limit of the host: the rest of a value that holds itself, past any depth that a
  walk gets to. -/
  | beyond (limit : HostLimit)
  /-- What is only ever shown, by its text. -/
  | shown (text : String)
  | other (typeName : String)
deriving DecidableEq

/-- The name of the type of a foreign value. -/
def Foreign.typeName : Foreign → String
  | date _ => "date"
  | moment _ => "datetime"
  | bytes _ => "bytes"
  | set _ => "set"
  | beyond _ => "beyond"
  | shown _ => "shown"
  | other name => name

/-- A value: one of the six kinds, or foreign. The members of an object stand in insertion order. -/
inductive Value where
  | null
  | boolean (b : Bool)
  | integer (n : Int)
  | real (x : Double)
  | string (s : String)
  | array (items : List Value)
  | object (members : List (Key × Value))
  | foreign (f : Foreign)

instance : Inhabited Value := ⟨.null⟩

/-- The six kinds of value. -/
inductive Kind where
  | null
  | boolean
  | number
  | string
  | array
  | object
deriving DecidableEq

/-- The name of a kind. -/
def Kind.name : Kind → String
  | null => "null"
  | boolean => "boolean"
  | number => "number"
  | string => "string"
  | array => "array"
  | object => "object"

namespace Value

/-- The kind of a value; a foreign value has none. -/
def kind? : Value → Option Kind
  | null => some .null
  | boolean _ => some .boolean
  | integer _ => some .number
  | real _ => some .number
  | string _ => some .string
  | array _ => some .array
  | object _ => some .object
  | foreign _ => none

/-- Whether the value is a number. -/
def isNumber : Value → Bool
  | integer _ => true
  | real _ => true
  | _ => false

/-- The member filed under a key. -/
def member? {α : Type} (key : Key) (members : List (Key × α)) : Option α :=
  (members.find? fun entry => entry.1.same key).map (·.2)

/-- Files a value under a key: in the place of an equal key, else at the end. -/
def insert {α : Type} (key : Key) (value : α) : List (Key × α) → List (Key × α)
  | [] => [(key, value)]
  | (k, v) :: rest => if k.same key then (k, value) :: rest else (k, v) :: insert key value rest

/-- Files entries one after the other. -/
def ofEntries {α : Type} (entries : List (Key × α)) : List (Key × α) :=
  entries.foldl (fun members entry => insert entry.1 entry.2 members) []

/-- The value that a key is. -/
def ofKey : Key → Value
  | .text s => string s
  | .null => null
  | .boolean b => boolean b
  | .integer n => integer n
  | .real x => real x
  | .notNumber _ => real .nan
  | .date d => foreign (.date d)
  | .moment t => foreign (.moment t)
  | .bytes bs => foreign (.bytes bs)

/-- An object with text keys. -/
def ofFields (fields : List (String × Value)) : Value :=
  .object (fields.map fun field => (.text field.1, field.2))

end Value

end WorkflowExpr
