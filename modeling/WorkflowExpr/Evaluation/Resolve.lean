import WorkflowExpr.Context.Root
import WorkflowExpr.Evaluation.Trace
import WorkflowExpr.Expr.Basic
import WorkflowExpr.Function.Standard

/-!
# Evaluation

An expression resolves to a value, together with the path at which the context holds it if it was
read from there. Reading alone is not recorded: a path is recorded when its value is consumed by an
operator, as an argument, as an index, or as the value of the whole expression.
-/

namespace WorkflowExpr

/-- What an expression is evaluated against. -/
structure Environment where
  context : List (String × Value) := []
  library : Library := Standard.library
  host : Capabilities := {}

/-- What a host sets up. The standard library takes the place of one that is not given, and of one without
functions. -/
def Environment.ofHost (context : List (String × Value)) (library? : Option Library)
    (host : Capabilities) : Environment :=
  { context, library := library?.elim Standard.library Library.orStandard, host }

/-- A value, with the path at which the context holds it. -/
structure Resolved where
  value : Value
  path : Option String

namespace Resolved

/-- A value that was computed. -/
def computed (value : Value) : Resolved :=
  ⟨value, none⟩

end Resolved

/-- The value of a context root; a root that the context does not have is an empty object. -/
def Environment.root (env : Environment) (name : String) : Except Failure Resolved :=
  if name ∈ Root.names then
    let value := (env.context.find? fun entry => entry.1 == name).map (·.2)
    .ok ⟨value.getD (.object []), some name⟩
  else .error (.unknownContext name Root.names)

namespace Resolved

/-- The path of a member of what stands at a path. -/
def memberPath (path name : String) : String :=
  path ++ "." ++ name

/-- The path of all parts of what stands at a path. -/
def allPath (path : String) : String :=
  path ++ ".*"

/-- The path of an element of what stands at a path. -/
def elementPath (path : String) (index : Int) : String :=
  path ++ "[" ++ toString index ++ "]"

/-- The path of a member of all elements of the array at a path. -/
def projectedPath (path name : String) : String :=
  if ['.', '*'].isSuffixOf path.toList then memberPath path name
  else memberPath (allPath path) name

/-- The member of that name of an item, null if the item has none. -/
def projected (name : String) : Value → Value
  | .object members => (Value.member? (.text name) members).getD .null
  | _ => .null

/-- A member by its name: of an object, or of every element of an array. -/
def property (base : Resolved) (name : String) : Except Failure Resolved := do
  match base.value with
  | .object members =>
    match Value.member? (.text name) members with
    | some value => return ⟨value, base.path.map (memberPath · name)⟩
    | none =>
      if let some limit := members.findSome? fun entry => entry.1.limit? then throw (.beyond limit)
      throw (.unknownProperty name base.path (members.map fun entry => entry.1.display))
  | .array items => return ⟨.array (items.map (projected name)), base.path.map (projectedPath · name)⟩
  | scalar => throw (.noProperties name (← scalar.kind) base.path)

/-- An element of an array. The index is coerced to a number and its fraction dropped. -/
def element (base : Resolved) (position : Value) : Except Failure Resolved := do
  match base.value with
  | .array items =>
    let number ← position.toNumber
    if !number.isFinite then throw (.indexNotFinite (← position.toJsonText))
    let index := number.truncate
    match if index < 0 then none else items[index.toNat]? with
    | some value => return ⟨value, base.path.map (elementPath · index)⟩
    | none => throw (.indexOutOfRange index items.length)
  | other => throw (.noElements (← other.kind))

/-- The elements of an array or the members of an object; a scalar has no parts. -/
def parts (base : Resolved) : Except Failure Resolved := do
  let items ← match base.value with
    | .array items => pure items
    | .object members => pure (members.map (·.2))
    | scalar => do
      let _ ← scalar.kind
      pure []
  return ⟨.array items, base.path.map allPath⟩

end Resolved

/-- The number that one side of a comparison of order stands for. -/
def orderNumber (r : Relation) (v : Value) : Except Failure Double := do
  match ← v.kind with
  | .array => throw (.noOrder .array r)
  | .object => throw (.noOrder .object r)
  | _ =>
    let number ← v.toNumber
    if number.isNaN then throw (.notComparable (← v.toJsonText) r)
    return number

/-- Whether two numbers stand in a relation. -/
def Relation.holds (r : Relation) (a b : Double) : Bool :=
  match r with
  | less => a.less b
  | atMost => a.atMost b
  | greater => b.less a
  | atLeast => b.atMost a

/-- Compares two values by order. -/
def compareOrder (r : Relation) (a b : Value) : Except Failure Bool := do
  let x ← orderNumber r a
  let y ← orderNumber r b
  return r.holds x y

mutual

/-- Resolves an expression. -/
def resolve (env : Environment) : Expr → Walk Resolved
  | .literal value => pure (.computed value)
  | .root name => .of (env.root name)
  | .property base name => do
    let base ← resolve env base
    .of (base.property name)
  | .index base position => do
    let base ← resolve env base
    let position ← resolve env position
    .record position.path
    .of (base.element position.value)
  | .wildcard base => do
    let base ← resolve env base
    .of base.parts
  | .call name args => do
    let f ← .of (env.library.get name)
    let args ← resolveAll env args
    let reply := f.apply env.host args
    .ask reply.requests
    return .computed (← .of reply.result)
  | .not operand => do
    let operand ← resolve env operand
    .record operand.path
    return .computed (.boolean !operand.value.isTruthy)
  | .binary .and left right => do
    let left ← resolve env left
    .record left.path
    if left.value.isTruthy then resolve env right else return left
  | .binary .or left right => do
    let left ← resolve env left
    .record left.path
    if left.value.isTruthy then return left else resolve env right
  | .binary .equal left right => do
    let left ← resolve env left
    .record left.path
    let right ← resolve env right
    .record right.path
    return .computed (.boolean (← .of (left.value.looseEquals right.value)))
  | .binary .notEqual left right => do
    let left ← resolve env left
    .record left.path
    let right ← resolve env right
    .record right.path
    return .computed (.boolean !(← .of (left.value.looseEquals right.value)))
  | .binary (.relation r) left right => do
    let left ← resolve env left
    .record left.path
    let right ← resolve env right
    .record right.path
    return .computed (.boolean (← .of (compareOrder r left.value right.value)))
  | .hole typeName => throw (.unknownNode typeName)

/-- Resolves and consumes expressions from left to right. -/
def resolveAll (env : Environment) : List Expr → Walk (List Value)
  | [] => pure []
  | arg :: rest => do
    let resolved ← resolve env arg
    .record resolved.path
    return resolved.value :: (← resolveAll env rest)

end

/-- Resolves and consumes an expression. -/
def consume (env : Environment) (e : Expr) : Walk Value := do
  let resolved ← resolve env e
  .record resolved.path
  return resolved.value

end WorkflowExpr
