import WorkflowExpr.Capability.Status
import WorkflowExpr.Log.Level
import WorkflowExpr.Text.Blank
import WorkflowExpr.Text.Digit
import WorkflowExpr.Value.Basic
import WorkflowExpr.Workspace.Path

/-!
# Settings

The settings of the program and the values that each of them takes. A number may be given as a text,
and a real number that is an integer counts as one.
-/

namespace WorkflowExpr

/-- How much the program logs. -/
inductive Verbosity where
  | error
  | warning
  | info
  | debug
deriving DecidableEq

namespace Verbosity

/-- The name of a verbosity. -/
def name : Verbosity → String
  | error => "error"
  | warning => "warning"
  | info => "info"
  | debug => "debug"

/-- The verbosity with the given name. -/
def ofName? : String → Option Verbosity
  | "error" => some error
  | "warning" => some warning
  | "info" => some info
  | "debug" => some debug
  | _ => none

/-- The least level of a record that is logged. -/
def level : Verbosity → Log.Level
  | error => .error
  | warning => .warning
  | info => .info
  | debug => .debug

end Verbosity

/-- A setting of the program. -/
inductive Setting where
  | maxDepth
  | contextFile
  | workspace
  | status
  | verbosity
deriving DecidableEq

namespace Setting

/-- The settings in the order in which they are checked. -/
def all : List Setting :=
  [maxDepth, contextFile, workspace, status, verbosity]

/-- The name of a setting. -/
def name : Setting → String
  | maxDepth => "max_depth"
  | contextFile => "context_file"
  | workspace => "workspace"
  | status => "status"
  | verbosity => "verbosity"

/-- The name of the environment variable of a setting, in lower case. -/
def variableName (s : Setting) : String :=
  "ghexpr_" ++ s.name

/-- What is wrong with the value of a setting. -/
inductive Problem where
  | notInteger
  | notIntegerText
  | notWhole
  | notFinite
  | tooManyDigits
  | tooSmall (least : Nat)
  | tooLarge (greatest : Nat)
  | notPath
  | notStatus
  | notVerbosity
deriving DecidableEq

/-- The wording of a problem. -/
def Problem.message : Problem → String
  | notInteger => "Input should be a valid integer"
  | notIntegerText => "Input should be a valid integer, unable to parse string as an integer"
  | notWhole => "Input should be a valid integer, got a number with a fractional part"
  | notFinite => "Input should be a finite number"
  | tooManyDigits => "Unable to parse input string as an integer, exceeded maximum size"
  | tooSmall least => "Input should be greater than or equal to " ++ toString least
  | tooLarge greatest => "Input should be less than or equal to " ++ toString greatest
  | notPath => "Input is not a valid path for <class 'pathlib.Path'>"
  | notStatus => "Input should be 'success', 'failure' or 'cancelled'"
  | notVerbosity => "Input should be 'error', 'warning', 'info' or 'debug'"

/-! ## Integers -/

/-- The greatest number of characters in an integer. -/
def integerLimit : Nat := 4300

/-- The number that digits write. A zero in front has to stand alone. -/
def naturalOfDigits? (cs : List Char) : Option Nat :=
  if cs = [] ∨ !cs.all Char.isDigit ∨ (cs.head? = some '0' ∧ 1 < cs.length) then none
  else some (Text.natOfDigits cs)

/-- The integer that digits write, possibly behind a minus. -/
def integerOfDigits? (cs : List Char) : Option Int :=
  match cs with
  | '-' :: digits => (naturalOfDigits? digits).map fun n => -n
  | digits => (naturalOfDigits? digits).map Int.ofNat

/-- The number of characters that a text starts with as an integer whose first digit is no zero. -/
def leadingCount (cs : List Char) : Nat :=
  let digits := (if cs.head? = some '-' then cs.tail else cs).takeWhile Char.isDigit
  if digits = [] ∨ digits.head? = some '0' then 0
  else if cs.head? = some '-' then digits.length + 1
  else digits.length

/-- A text without the zeros in front and the underscores among them. The last one stays if nothing or a
point is behind it, and a minus keeps them all. -/
def withoutZeros? (cs : List Char) : Option (List Char) :=
  let isPassed := fun c => c == '0' || c == '_'
  match cs with
  | '-' :: _ => some cs
  | '0' :: _ =>
    match cs.dropWhile isPassed with
    | [] => some (cs.drop (cs.length - 1))
    | '.' :: rest => some (((cs.takeWhile isPassed).getLast?.getD '0') :: '.' :: rest)
    | rest => if rest.head?.any Char.isDigit then some rest else none
  | _ => if cs.head?.any Char.isDigit then some cs else none

/-- The text in front of a point that only zeros follow; a text without a point is kept. -/
def wholePart (cs : List Char) : List Char :=
  let fraction := (cs.dropWhile (· ≠ '.')).tail
  if fraction.all (· == '0') then cs.takeWhile (· ≠ '.') else cs

/-- A text without underscores, if all of them stand alone between other characters. -/
def withoutUnderscores (cs : List Char) : List Char :=
  let isLoose := cs.head? = some '_' ∨ cs.getLast? = some '_' ∨ (cs.zip cs.tail).contains ('_', '_')
  if isLoose then cs else cs.filter (· ≠ '_')

/-- The integer that a text writes, with space around it, a plus, zeros in front, single underscores or
a fraction of zeros. -/
def looseInteger? (cs : List Char) : Option Int := do
  let trimmed := Text.trimSpace cs
  let unsigned := if trimmed.head? = some '+' then trimmed.tail else trimmed
  let digits := withoutUnderscores (wholePart (← withoutZeros? unsigned))
  if integerLimit < digits.length then none else integerOfDigits? digits

/-- The integer that a text writes. -/
def integerOfText (text : String) : Except Problem Int :=
  if integerLimit < leadingCount text.toList then .error .tooManyDigits
  else
    match looseInteger? text.toList with
    | some n => .ok n
    | none => .error .notIntegerText

/-- The integer that a real number is. -/
def integerOfReal (x : Double) : Except Problem Int :=
  if !x.isFinite then .error .notFinite
  else if !x.isIntegral then .error .notWhole
  else if Nat.pow 2 63 ≤ x.truncate.natAbs then .error .tooManyDigits
  else .ok x.truncate

/-- The integer that a value stands for. -/
def integerOf : Value → Except Problem Int
  | .integer n => .ok n
  | .boolean b => .ok (if b then 1 else 0)
  | .real x => integerOfReal x
  | .string s => integerOfText s
  | .foreign (.bytes bs) =>
    match String.fromUTF8? ⟨(bs.map UInt8.ofNat).toArray⟩ with
    | some s => integerOfText s
    | none => .error .notIntegerText
  | _ => .error .notInteger

/-! ## Values of the settings -/

/-- The least nesting limit that can be set. -/
def leastDepth : Nat := 1

/-- The greatest nesting limit that can be set. -/
def greatestDepth : Nat := 200

/-- A nesting limit. -/
def depthOf (v : Value) : Except Problem Nat := do
  let n ← integerOf v
  if n < leastDepth then .error (.tooSmall leastDepth)
  else if greatestDepth < n then .error (.tooLarge greatestDepth)
  else return n.toNat

/-- A path, or none. -/
def pathOf : Value → Except Problem (Option String)
  | .null => .ok none
  | .string s => .ok (some (Path.normalized s))
  | _ => .error .notPath

/-- A job status. -/
def statusOf : Value → Except Problem Conclusion
  | .string s =>
    match Conclusion.ofName? s with
    | some c => .ok c
    | none => .error .notStatus
  | _ => .error .notStatus

/-- A verbosity. -/
def verbosityOf : Value → Except Problem Verbosity
  | .string s =>
    match Verbosity.ofName? s with
    | some v => .ok v
    | none => .error .notVerbosity
  | _ => .error .notVerbosity

end Setting

end WorkflowExpr
