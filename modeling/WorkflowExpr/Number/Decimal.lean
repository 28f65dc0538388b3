import WorkflowExpr.Number.Double

/-!
# Decimal values of magnitudes

A decimal is a natural coefficient times a power of ten. Every decimal has a nearest magnitude, and
every finite magnitude has a shortest decimal: one with the fewest digits among those whose nearest
magnitude it is, and the nearest to it of these.
-/

namespace WorkflowExpr

/-- The number `coefficient * 10 ^ exponent`. -/
structure Decimal where
  coefficient : Nat
  exponent : Int
deriving DecidableEq

namespace Decimal

/-- The magnitude nearest to a decimal. A decimal far outside the range is settled by its exponent
alone, so that its power of ten is never computed. -/
def toMagnitude (d : Decimal) : Magnitude :=
  if d.coefficient = 0 then .zero
  else if 400 < d.exponent then .infinity
  else if d.exponent + d.coefficient.log2 + 1 < -400 then .zero
  else .nearest (d.coefficient * Nat.pow 10 d.exponent.toNat) (Nat.pow 10 (-d.exponent).toNat)

/-- The decimal digits of the coefficient. -/
def digits (d : Decimal) : List Char :=
  Nat.toDigits 10 d.coefficient

end Decimal

namespace Magnitude

/-- The power of ten of the first significant digit of a positive finite magnitude. -/
def decimalExponent (m : Magnitude) : Int :=
  (Nat.toDigits 10 (m.steps * Nat.pow 10 400 / one)).length - 401

/-- A decimal with the given exponent whose nearest magnitude is `m`. Only the two neighbours of `m`
among the multiples of the power of ten can be one, and the nearer of them is tried first. -/
def decimalAt? (m : Magnitude) (exponent : Int) : Option Decimal :=
  let num := m.steps * Nat.pow 10 (-exponent).toNat
  let den := one * Nat.pow 10 exponent.toNat
  let below := num / den
  let near := roundHalfEven num den
  let far := if near = below then below + 1 else below
  if (Decimal.mk near exponent).toMagnitude = m then some ⟨near, exponent⟩
  else if (Decimal.mk far exponent).toMagnitude = m then some ⟨far, exponent⟩
  else none

/-- The decimal equal to a finite magnitude: one step is 5^1074 times 10^-1074. -/
def exactDecimal (m : Magnitude) : Decimal :=
  ⟨m.steps * Nat.pow 5 1074, -1074⟩

/-- The decimal with the fewest digits whose nearest magnitude is `m`. Seventeen digits always
suffice. -/
def shortest (m : Magnitude) : Decimal :=
  let first := m.decimalExponent
  ((List.range 17).findSome? fun k : Nat => m.decimalAt? (first - k)).getD m.exactDecimal

end Magnitude

end WorkflowExpr
