/-!
# Double precision numbers

A double is a sign and a magnitude, or no number at all. A magnitude is kept as its place in the list
of all magnitudes in increasing order: zero is 0, the least positive one is 1, and infinity comes
last. That place is also its binary64 bit pattern, so comparing magnitudes is comparing naturals, and
the next magnitude up is the next natural.

Magnitudes are measured in steps of 2^-1074, of which every finite one is a whole multiple
(`Magnitude.steps`). `Magnitude.nearest` rounds a quotient of naturals to the nearest magnitude, and
of two equally near ones to the one with the even place.
-/

namespace WorkflowExpr

/-- A nonnegative double: its place among all of them in increasing order. -/
structure Magnitude where
  place : Nat
  le_infinity : place ≤ 0x7FF0000000000000 := by omega
deriving DecidableEq

namespace Magnitude

/-- The magnitude 0. -/
def zero : Magnitude := ⟨0, by omega⟩

/-- The magnitude above all finite ones. -/
def infinity : Magnitude := ⟨0x7FF0000000000000, by omega⟩

/-- Whether the magnitude is below infinity. -/
def isFinite (m : Magnitude) : Bool :=
  m.place < infinity.place

/-- The number of steps in one: a step is 2^-1074. -/
def one : Nat := Nat.pow 2 1074

/-- The number of magnitudes from a power of two up to the next, 2^52. -/
def binade : Nat := 0x10000000000000

/-- The value in steps. Below 2^52 the magnitudes are the multiples of one step; after that each run
of 2^52 of them doubles the gap. -/
def steps (m : Magnitude) : Nat :=
  if m.place < binade then m.place
  else (m.place % binade + binade) * Nat.pow 2 (m.place / binade - 1)

/-- The quotient of two naturals rounded to the nearest natural, a half to the even neighbour. -/
def roundHalfEven (num den : Nat) : Nat :=
  let q := num / den
  let twice := 2 * (num % den)
  if den < twice ∨ (twice = den ∧ q % 2 = 1) then q + 1 else q

/-- The magnitude nearest to `num / den`; of two equally near ones the one with the even place.
Quotients from half a gap above the last finite magnitude on go to infinity. -/
def nearest (num den : Nat) : Magnitude :=
  let scaled := num * one
  let gap := (scaled / den).log2 - 52
  ⟨min (gap * binade + roundHalfEven scaled (den * Nat.pow 2 gap)) infinity.place,
    Nat.min_le_right ..⟩

/-- Whether the magnitude is a natural number. -/
def isIntegral (m : Magnitude) : Bool :=
  m.isFinite && m.steps % one == 0

/-- The natural below or at the magnitude. -/
def floor (m : Magnitude) : Nat :=
  m.steps / one

end Magnitude

/-- A double precision number: not a number, or a sign with a magnitude. -/
inductive Double where
  | nan
  | signed (negative : Bool) (magnitude : Magnitude)
deriving DecidableEq

namespace Double

/-- Zero, with a positive sign. -/
def zero : Double := .signed false .zero

/-- The double nearest to one. -/
def one : Double := .signed false (.nearest 1 1)

/-- Positive infinity. -/
def infinity : Double := .signed false .infinity

/-- The double nearest to an integer, an infinity beyond the range. -/
def ofInt (n : Int) : Double :=
  .signed (n < 0) (.nearest n.natAbs 1)

/-- Whether the value is not a number. -/
def isNaN : Double → Bool
  | nan => true
  | signed .. => false

/-- Whether the value is a number and no infinity. -/
def isFinite : Double → Bool
  | nan => false
  | signed _ m => m.isFinite

/-- Whether the value is an integer. -/
def isIntegral : Double → Bool
  | nan => false
  | signed _ m => m.isIntegral

/-- The place on the line of all numbers, negative below zero; the two zeros share a place. -/
def rank? : Double → Option Int
  | nan => none
  | signed true m => some (-m.place)
  | signed false m => some m.place

/-- Numeric equality: false when either side is not a number, and the two zeros are equal. -/
def equals (a b : Double) : Bool :=
  match a.rank?, b.rank? with
  | some i, some j => i == j
  | _, _ => false

/-- Numeric order: false when either side is not a number. -/
def less (a b : Double) : Bool :=
  match a.rank?, b.rank? with
  | some i, some j => i < j
  | _, _ => false

/-- Numeric order or equality: false when either side is not a number. -/
def atMost (a b : Double) : Bool :=
  match a.rank?, b.rank? with
  | some i, some j => i ≤ j
  | _, _ => false

/-- The integer part: the fraction is dropped, so that the result lies toward zero. -/
def truncate : Double → Int
  | nan => 0
  | signed true m => -m.floor
  | signed false m => m.floor

end Double

end WorkflowExpr
