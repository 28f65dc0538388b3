import WorkflowExpr.Number.Decimal
import WorkflowExpr.Proofs.Number.Exact

/-!
# Far numbers

Numbers beyond the range are rounded to infinity and numbers close to zero to zero. So a decimal is rounded
like all other numbers, although one far outside the range is settled by its exponent.
-/

namespace WorkflowExpr

namespace Magnitude

/-- Each magnitude has its own place. -/
lemma place_injective {m m' : Magnitude} (h : m.place = m'.place) : m = m' := by
  cases m
  cases m'
  cases h
  rfl

/-- A number of 2^1024 or more is rounded to infinity. -/
lemma nearest_infinity {num den k : Nat} (h : 0 < den) (hk : 1024 ≤ k) (large : den * 2 ^ k ≤ num) :
    nearest num den = infinity := by
  have quotient : 2 ^ (k + 1074) ≤ num * one / den := by
    obtain ⟨n, hn, e⟩ := one_eq
    rw [Nat.le_div_iff_mul_le h, e, ← hn, Nat.pow_add]
    calc 2 ^ k * 2 ^ n * den = den * 2 ^ k * 2 ^ n := by
          rw [Nat.mul_comm _ den, Nat.mul_assoc]
      _ ≤ num * 2 ^ n := Nat.mul_le_mul_right _ large
  generalize hq : num * one / den = q at quotient
  have nonzero : q ≠ 0 := Nat.ne_of_gt (Nat.lt_of_lt_of_le (Nat.two_pow_pos _) quotient)
  have log : k + 1074 ≤ q.log2 := (Nat.le_log2 nonzero).2 quotient
  -- The gap is so wide that a whole binade of places does not make up for it.
  have round : binade ≤ roundHalfEven (num * one) (den * 2 ^ (q.log2 - 52)) := by
    refine Nat.le_trans ?_ (le_roundHalfEven _ _)
    rw [← Nat.div_div_eq_div_mul, hq, Nat.le_div_iff_mul_le (Nat.two_pow_pos _)]
    exact (gap_bounds rfl).2 (by omega)
  have gap : 2046 * binade ≤ (q.log2 - 52) * binade := Nat.mul_le_mul_right _ (by omega)
  apply place_injective
  rw [place_nearest, hq]
  exact Nat.min_eq_right (Nat.add_le_add gap round)

/-- A number below half the first step is rounded to zero. -/
lemma nearest_zero {num den : Nat} (small : 2 * (num * one) < den) : nearest num den = zero := by
  have quotient : num * one / den = 0 := Nat.div_eq_of_lt (by omega)
  have round : roundHalfEven (num * one) (den * 2 ^ (Nat.log2 0 - 52)) = 0 := by
    rw [Nat.log2_zero, Nat.pow_zero, Nat.mul_one, roundHalfEven, quotient, Nat.mod_eq_of_lt (by omega)]
    exact if_neg (by omega)
  apply place_injective
  rw [place_nearest, quotient, round, Nat.log2_zero]
  rfl

end Magnitude

namespace Decimal

open Magnitude

/-- A power of ten has three bits at least for each digit. -/
lemma two_pow_le_ten_pow (n : Nat) : 2 ^ (3 * n) ≤ 10 ^ n := by
  rw [Nat.pow_mul]
  exact Nat.pow_le_pow_left (by decide) n

/-- Decimals far outside the range are rounded as all others. -/
theorem toMagnitude_eq_nearest (d : Decimal) :
    d.toMagnitude = nearest (d.coefficient * 10 ^ d.exponent.toNat) (10 ^ (-d.exponent).toNat) := by
  obtain ⟨c, e⟩ := d
  have positive : 0 < 10 ^ (-e).toNat := Nat.pow_pos (by decide)
  rw [toMagnitude]
  dsimp only
  split
  · next zero =>
    rw [zero, Nat.zero_mul]
    exact (nearest_zero (by rw [Nat.zero_mul]; exact positive)).symm
  · next nonzero =>
    split
    · next large =>
      have whole : (-e).toNat = 0 := by omega
      refine (nearest_infinity (k := 3 * e.toNat) positive (by omega) ?_).symm
      rw [whole, Nat.pow_zero, Nat.one_mul]
      calc 2 ^ (3 * e.toNat) ≤ 10 ^ e.toNat := two_pow_le_ten_pow _
        _ ≤ c * 10 ^ e.toNat := Nat.le_mul_of_pos_left _ (Nat.pos_of_ne_zero nonzero)
    · split
      · next small =>
        have whole : e.toNat = 0 := by omega
        obtain ⟨k, hk, unit⟩ := one_eq
        refine (nearest_zero ?_).symm
        rw [whole, Nat.pow_zero, Nat.mul_one, unit]
        calc 2 * (c * 2 ^ k) < 2 * (2 ^ (c.log2 + 1) * 2 ^ k) :=
              Nat.mul_lt_mul_of_pos_left
                (Nat.mul_lt_mul_of_pos_right Nat.lt_log2_self (Nat.two_pow_pos k)) (by decide)
          _ = 2 ^ (c.log2 + 1 + k + 1) := by rw [← Nat.pow_add, Nat.mul_comm, ← Nat.pow_succ]
          _ ≤ 2 ^ (3 * (-e).toNat) := Nat.pow_le_pow_right (by decide) (by omega)
          _ ≤ 10 ^ (-e).toNat := two_pow_le_ten_pow _
      · rfl

/-- A natural is rounded to the magnitude nearest to it. -/
lemma toMagnitude_natural (n : Nat) : toMagnitude ⟨n, 0⟩ = nearest n 1 := by
  rw [toMagnitude_eq_nearest]
  dsimp only
  rw [Int.neg_zero, Int.toNat_zero, Nat.pow_zero, Nat.mul_one]

end Decimal

namespace Magnitude

/-- What the search for a decimal finds stands for the magnitude. -/
lemma decimalAt_eq_some {m : Magnitude} {e : Int} {d : Decimal} (h : m.decimalAt? e = some d) :
    d.toMagnitude = m ∧ d.exponent = e := by
  unfold decimalAt? at h
  extract_lets num den below near far at h
  split at h
  · next near =>
    cases h
    exact ⟨near, rfl⟩
  · split at h
    · next far =>
      cases h
      exact ⟨far, rfl⟩
    · cases h

end Magnitude

end WorkflowExpr
