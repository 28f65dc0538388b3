import WorkflowExpr.Number.Double

/-!
# Sums and products

The exact result is rounded to the nearest double. Infinities of opposite signs have no sum, and an
infinity and zero no product.
-/

namespace WorkflowExpr

namespace Magnitude

/-- The magnitude nearest to the sum of two finite ones. -/
def plus (m n : Magnitude) : Magnitude :=
  .nearest (m.steps + n.steps) one

/-- The magnitude nearest to the product of two finite ones. -/
def times (m n : Magnitude) : Magnitude :=
  .nearest (m.steps * n.steps) (one * one)

end Magnitude

namespace Double

/-- The number with the opposite sign. -/
def opposite : Double → Double
  | nan => nan
  | signed negative m => signed (!negative) m

/-- The sum. Numbers that cancel out give a positive zero. -/
def plus : Double → Double → Double
  | nan, _ => nan
  | _, nan => nan
  | signed s m, signed t n =>
    if !m.isFinite then if !n.isFinite && s != t then nan else signed s m
    else if !n.isFinite then signed t n
    else if s = t then signed s (m.plus n)
    else if n.steps ≤ m.steps then
      signed (s && m.steps != n.steps) (.nearest (m.steps - n.steps) Magnitude.one)
    else signed t (.nearest (n.steps - m.steps) Magnitude.one)

/-- The product. -/
def times : Double → Double → Double
  | nan, _ => nan
  | _, nan => nan
  | signed s m, signed t n =>
    if m.isFinite && n.isFinite then signed (s != t) (m.times n)
    else if m.place = 0 ∨ n.place = 0 then nan
    else signed (s != t) .infinity

end Double

end WorkflowExpr
