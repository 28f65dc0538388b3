/-!
# Limits of the host

A host writes and reads integers up to a number of digits, walks into a value up to a depth, and looks up
names up to a number of bytes. What is beyond such a limit is no value of the language that is wrong, but
cannot be dealt with.
-/

namespace WorkflowExpr

/-- The greatest number of decimal digits with which an integer is read or written. -/
def digitLimit : Nat := 4300

/-- Whether an integer has no more digits than are written. -/
def isWritable (n : Int) : Bool :=
  n.natAbs < Nat.pow 10 digitLimit

/-- A limit of the host. -/
inductive HostLimit where
  /-- An integer has more digits than are written. -/
  | digits
  /-- A value holds itself and so has no end. -/
  | depth
  /-- A path is too long to be looked up, or a name on its way is. -/
  | path (text : String)
deriving DecidableEq

/-- The wording of a limit. -/
def HostLimit.message : HostLimit → String
  | digits =>
    "Exceeds the limit (" ++ toString digitLimit ++
      " digits) for integer string conversion; use sys.set_int_max_str_digits() to increase the limit"
  | depth => "maximum recursion depth exceeded"
  | path text => "[Errno 36] File name too long: '" ++ text ++ "'"

end WorkflowExpr
