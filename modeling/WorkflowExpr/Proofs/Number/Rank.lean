import Mathlib.Tactic.Lemma
import WorkflowExpr.Number.Double

/-!
# Comparing doubles

Every double that is a number has a place on one line, and comparisons of doubles are comparisons of their
places. What is no number has no place, and no comparison holds of it.
-/

namespace WorkflowExpr.Double

variable {x y z : Double} {i j : Int}

/-- Each double but the one that is no number has a rank. -/
lemma exists_rank (h : x.isNaN = false) : ∃ i, x.rank? = some i := by
  cases x with
  | nan => cases h
  | signed negative m =>
    cases negative with
    | _ => exact ⟨_, rfl⟩

/-- What has a rank is a number. -/
lemma isNaN_of_rank (h : x.rank? = some i) : x.isNaN = false := by
  cases x with
  | nan => cases h
  | signed => rfl

/-- Doubles are equal when their ranks are. -/
lemma equals_rank (hx : x.rank? = some i) (hy : y.rank? = some j) :
    x.equals y = decide (i = j) := by
  rw [equals, hx, hy]
  rfl

/-- A double is less than another one when its rank is. -/
lemma less_rank (hx : x.rank? = some i) (hy : y.rank? = some j) : x.less y = decide (i < j) := by
  rw [less, hx, hy]

/-- A double is at most another one when its rank is. -/
lemma atMost_rank (hx : x.rank? = some i) (hy : y.rank? = some j) : x.atMost y = decide (i ≤ j) := by
  rw [atMost, hx, hy]

/-- Doubles are equal when they have one rank in common. -/
lemma equals_iff : x.equals y = true ↔ ∃ i, x.rank? = some i ∧ y.rank? = some i := by
  constructor
  · intro h
    rw [equals] at h
    split at h
    · next i j hx hy =>
      obtain rfl := eq_of_beq h
      exact ⟨i, hx, hy⟩
    · cases h
  · rintro ⟨i, hx, hy⟩
    rw [equals_rank hx hy, decide_eq_true rfl]

/-- Equality of doubles is symmetric. -/
lemma equals_symm (h : x.equals y = true) : y.equals x = true := by
  obtain ⟨i, hx, hy⟩ := equals_iff.1 h
  exact equals_iff.2 ⟨i, hy, hx⟩

/-- It makes no difference which of two doubles is compared with the other one. -/
lemma equals_comm (x y : Double) : x.equals y = y.equals x :=
  Bool.eq_iff_iff.2 ⟨equals_symm, equals_symm⟩

/-- Equality of doubles is transitive. -/
lemma equals_trans (h : x.equals y = true) (h' : y.equals z = true) : x.equals z = true := by
  obtain ⟨i, hx, hy⟩ := equals_iff.1 h
  obtain ⟨j, hy', hz⟩ := equals_iff.1 h'
  obtain rfl : i = j := Option.some.inj (hy.symm.trans hy')
  exact equals_iff.2 ⟨i, hx, hz⟩

/-- A double is equal to itself unless it is no number. -/
lemma equals_self_iff : x.equals x = true ↔ x.isNaN = false := by
  constructor
  · intro h
    obtain ⟨i, hx, -⟩ := equals_iff.1 h
    exact isNaN_of_rank hx
  · intro h
    obtain ⟨i, hx⟩ := exists_rank h
    exact equals_iff.2 ⟨i, hx, hx⟩

end WorkflowExpr.Double
