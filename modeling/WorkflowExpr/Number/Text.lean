import WorkflowExpr.Number.Decimal

/-!
# The text of a number

A double that is an integer below 10^21 is written with all its digits. Every other finite double is
written with the fewest digits that read back as it: positional when the first digit stands between
10^-4 and 10^15, and with an exponent otherwise.
-/

namespace WorkflowExpr

/-- The exponent part of a number text: a sign always and at least two digits. -/
def exponentText (e : Int) : String :=
  let digits := toString e.natAbs
  (if e < 0 then "e-" else "e+") ++ (if digits.length < 2 then "0" ++ digits else digits)

/-- The text of the digits `ds`, the first of which stands at the power of ten `first`. A point always
shows in the positional form. -/
def digitsText (ds : List Char) (first : Int) : String :=
  if -4 ≤ first ∧ first < 16 then
    if first < 0 then
      "0." ++ String.ofList (List.replicate (-first - 1).toNat '0' ++ ds)
    else
      let whole := first.toNat + 1
      if ds.length ≤ whole then
        String.ofList (ds ++ List.replicate (whole - ds.length) '0') ++ ".0"
      else
        String.ofList (ds.take whole) ++ "." ++ String.ofList (ds.drop whole)
  else
    match ds with
    | [d] => String.singleton d ++ exponentText first
    | d :: rest => String.singleton d ++ "." ++ String.ofList rest ++ exponentText first
    | [] => exponentText first

namespace Magnitude

/-- The shortest text of a finite magnitude, with a point or an exponent. -/
def shortestText (m : Magnitude) : String :=
  let d := m.shortest
  let first := d.exponent + d.digits.length - 1
  let significant := (d.digits.reverse.dropWhile (· == '0')).reverse
  digitsText (if significant = [] then ['0'] else significant) (if d.coefficient = 0 then 0 else first)

end Magnitude

namespace Double

/-- Whether the double is an integer that is written with all its digits: one below 10^21. -/
def isPlainInteger : Double → Bool
  | nan => false
  | signed _ m => m.isIntegral && m.steps < Nat.pow 10 21 * Magnitude.one

/-- The shortest text that reads back as the double, an integer with a point or an exponent too. -/
def shortestText : Double → String
  | nan => "nan"
  | signed negative m =>
    (if negative then "-" else "") ++ if m.isFinite then m.shortestText else "inf"

/-- The text of a number: an integer below 10^21 has all its digits and no point. -/
def text (x : Double) : String :=
  match x with
  | nan => "NaN"
  | signed negative m =>
    if !m.isFinite then if negative then "-Infinity" else "Infinity"
    else if x.isPlainInteger then toString x.truncate
    else x.shortestText

end Double

end WorkflowExpr
