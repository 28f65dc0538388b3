import WorkflowExpr.Number.Decimal
import WorkflowExpr.Text.Blank
import WorkflowExpr.Text.Digit

/-!
# Written numbers

Two forms of number are read, each with an optional sign: decimal, with an optional fraction and an
optional exponent in the digits of any script, and hexadecimal after `0x`. A numeral stands for the
double nearest to the number it writes.
-/

namespace WorkflowExpr

/-- A number as written: a sign with a decimal or a hexadecimal natural. -/
inductive Numeral where
  | decimal (negative : Bool) (value : Decimal)
  | hexadecimal (negative : Bool) (value : Nat)
deriving DecidableEq

namespace Numeral

/-- The double nearest to the number written. -/
def toDouble : Numeral → Double
  | decimal negative value => .signed negative value.toMagnitude
  | hexadecimal negative value => .signed (negative && value != 0) (.nearest value 1)

/-- A leading sign: whether it is a minus, and what follows it. -/
def takeSign : List Char → Bool × List Char
  | '-' :: rest => (true, rest)
  | '+' :: rest => (false, rest)
  | rest => (false, rest)

/-- The exponent part of a decimal: nothing, or `e` with an optional sign and digits up to the end of
the text. -/
def exponent? : List Char → Option Int
  | [] => some 0
  | e :: rest =>
    if e = 'e' ∨ e = 'E' then
      let (negative, digits) := takeSign rest
      if digits ≠ [] ∧ digits.all Text.isDigit then
        let n : Int := Text.natOfDigits digits
        some (if negative then -n else n)
      else none
    else none

/-- The decimal with the given digits before and after the point, times a power of ten. -/
def ofParts (whole fraction : List Char) (exponent : Int) : Decimal :=
  ⟨Text.natOfDigits (whole ++ fraction), exponent - fraction.length⟩

/-- The unsigned decimal form: digits with an optional point anywhere among or beside them, then an
optional exponent. -/
def decimal? (cs : List Char) : Option Decimal :=
  let whole := cs.takeWhile Text.isDigit
  let (fraction, rest) := match cs.dropWhile Text.isDigit with
    | '.' :: tail => (tail.takeWhile Text.isDigit, tail.dropWhile Text.isDigit)
    | tail => ([], tail)
  if whole = [] ∧ fraction = [] then none
  else (exponent? rest).map (ofParts whole fraction)

/-- The unsigned hexadecimal form: `0x` and at least one digit. -/
def hexadecimal? : List Char → Option Nat
  | '0' :: x :: digits =>
    if (x = 'x' ∨ x = 'X') ∧ digits ≠ [] ∧ digits.all Text.isHexDigit then
      some (Text.natOfHexDigits digits)
    else none
  | _ => none

/-- Reads a whole text as a numeral. -/
def read? (cs : List Char) : Option Numeral :=
  let (negative, rest) := takeSign cs
  match decimal? rest with
  | some value => some (.decimal negative value)
  | none => (hexadecimal? rest).map (.hexadecimal negative)

end Numeral

/-- The number that a text stands for: trimmed, nothing is zero, a numeral is the double nearest to
it, and all else is not a number. -/
def Double.ofText (cs : List Char) : Double :=
  let inner := Text.trim cs
  if inner = [] then .zero
  else match Numeral.read? inner with
    | some numeral => numeral.toDouble
    | none => .nan

end WorkflowExpr
