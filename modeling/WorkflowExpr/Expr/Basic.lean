import WorkflowExpr.Value.Basic
import WorkflowExpr.Expr.Operator

/-!
# Expressions

The trees that expressions are read into, and how deeply they nest.
-/

namespace WorkflowExpr

/-- An expression. -/
inductive Expr where
  /-- A value written out. -/
  | literal (value : Value)
  /-- A context root by its name. -/
  | root (name : String)
  /-- A member of an object, or of every element of an array. -/
  | property (base : Expr) (name : String)
  /-- An element of an array. -/
  | index (base : Expr) (position : Expr)
  /-- All elements of an array or all members of an object. -/
  | wildcard (base : Expr)
  /-- A function applied to arguments. -/
  | call (name : String) (args : List Expr)
  /-- The negation of a truth value. -/
  | not (operand : Expr)
  /-- Two operands joined by an operator. -/
  | binary (op : Operator) (left right : Expr)
  /-- Something of the named type that a host put in the place of an expression. -/
  | hole (typeName : String)

instance : Inhabited Expr := ⟨.literal .null⟩

namespace Expr

mutual

/-- The nesting depth: 1 for a literal, a bare root and a call without arguments, and one more than
the deepest part for all else. -/
def depth : Expr → Nat
  | literal _ => 1
  | root _ => 1
  | property base _ => 1 + base.depth
  | index base position => 1 + max base.depth position.depth
  | wildcard base => 1 + base.depth
  | call _ args => 1 + depthAll args
  | not operand => 1 + operand.depth
  | binary _ left right => 1 + max left.depth right.depth
  | hole _ => 1

/-- The depth of the deepest of some expressions, 0 for none. -/
def depthAll : List Expr → Nat
  | [] => 0
  | arg :: rest => max arg.depth (depthAll rest)

end

/-- The depth of what is built on parts of which the deepest has a depth, unless the limit is exceeded. -/
def depthAbove (limit : Int) (deepest : Nat) : Option Nat :=
  if limit < 1 + deepest then none else some (1 + deepest)

mutual

/-- The depth as it is found while the expression is built from its leaves up. There is none as soon as
a part exceeds the limit; literals and bare roots are not looked at and count 1. -/
def measure (limit : Int) : Expr → Option Nat
  | literal _ => some 1
  | root _ => some 1
  | property base _ => do depthAbove limit (← base.measure limit)
  | index base position => do
    depthAbove limit (max (← base.measure limit) (← position.measure limit))
  | wildcard base => do depthAbove limit (← base.measure limit)
  | call _ args => do depthAbove limit (← measureAll limit args)
  | not operand => do depthAbove limit (← operand.measure limit)
  | binary _ left right => do
    depthAbove limit (max (← left.measure limit) (← right.measure limit))
  | hole _ => depthAbove limit 0

/-- The depth of the deepest of some expressions as they are built one after the other. -/
def measureAll (limit : Int) : List Expr → Option Nat
  | [] => some 0
  | arg :: rest => do return max (← arg.measure limit) (← measureAll limit rest)

end

end Expr

end WorkflowExpr
