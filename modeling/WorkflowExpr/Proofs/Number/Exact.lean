import Mathlib.Algebra.Group.Nat.Defs
import Mathlib.Tactic.Lemma
import WorkflowExpr.Number.Double

/-!
# Exact magnitudes

Which numbers of steps a finite magnitude has, and that such a number is not changed by rounding. The
integer part of a finite magnitude is one of them: beyond 2^53 a magnitude has no fraction.
-/

namespace WorkflowExpr.Magnitude

/-- A number of steps is exact when it is a multiple of the gap between the magnitudes around it and
is not beyond the last finite one. -/
structure Exact (s : Nat) : Prop where
  dvd : 2 ^ (s.log2 - 52) ∣ s
  lt : s.log2 < 2098

/-- Infinity stands behind 2047 binades. -/
lemma place_infinity : infinity.place = 2047 * binade :=
  rfl

/-- The steps up to the number one are a power of two. -/
lemma one_eq : ∃ k, k = 1074 ∧ one = 2 ^ k := by
  refine ⟨1074, rfl, ?_⟩
  unfold one
  generalize 1074 = k
  rfl

/-- There are steps up to the number one. -/
lemma one_pos : 0 < one := by
  obtain ⟨k, -, e⟩ := one_eq
  rw [e]
  exact Nat.two_pow_pos k

/-- The number of steps of a place that is given by its gap and its multiple of the gap. -/
lemma steps_normal {g q : Nat} {m : Magnitude} (hm : m.place = g * binade + q)
    (hq : binade ≤ q) (hq' : q < 2 * binade) : m.steps = q * 2 ^ g := by
  have div : m.place / binade = g + 1 := by
    rw [hm, binade] at *
    omega
  have mod : m.place % binade + binade = q := by
    rw [hm, binade] at *
    omega
  have large : ¬ m.place < binade := by
    rw [hm, binade] at *
    omega
  rw [steps, if_neg large, div, mod]
  rfl

/-- A magnitude in the first two binades is as many steps as its place. -/
lemma steps_small {m : Magnitude} (hm : m.place < 2 * binade) : m.steps = m.place := by
  by_cases h : m.place < binade
  · rw [steps, if_pos h]
  · have hp : m.place = 0 * binade + m.place := by omega
    rw [steps_normal hp (by omega) hm, Nat.pow_zero, Nat.mul_one]

/-- The place of the nearest magnitude comes from its binade and its rounded significand, up to infinity. -/
lemma place_nearest (num den : Nat) :
    (nearest num den).place =
      min (((num * one / den).log2 - 52) * binade +
        roundHalfEven (num * one) (den * 2 ^ ((num * one / den).log2 - 52))) infinity.place :=
  rfl

/-- A multiple is divided without rounding. -/
lemma roundHalfEven_mul {den : Nat} (h : 0 < den) (q : Nat) : roundHalfEven (den * q) den = q := by
  have mod : den * q % den = 0 := Nat.mul_mod_right den q
  have div : den * q / den = q := Nat.mul_div_cancel_left q h
  rw [roundHalfEven, mod, div]
  exact if_neg (by omega)

/-- Rounding never goes below the integer part. -/
lemma le_roundHalfEven (num den : Nat) : num / den ≤ roundHalfEven num den := by
  unfold roundHalfEven
  dsimp only
  split
  · exact Nat.le_succ _
  · exact Nat.le_refl _

/-- Rounding goes up to the next integer at most. -/
lemma roundHalfEven_le (num den : Nat) : roundHalfEven num den ≤ num / den + 1 := by
  unfold roundHalfEven
  dsimp only
  split
  · exact Nat.le_refl _
  · exact Nat.le_succ _

/-- The gap that a number of steps tells leaves 53 bits of it, or all of them if there are fewer. -/
lemma gap_bounds {n g : Nat} (h : n.log2 - 52 = g) :
    n < 2 * binade * 2 ^ g ∧ (0 < g → binade * 2 ^ g ≤ n) := by
  constructor
  · calc n < 2 ^ (n.log2 + 1) := Nat.lt_log2_self
      _ ≤ 2 ^ (53 + g) := Nat.pow_le_pow_right (by decide) (by omega)
      _ = 2 * binade * 2 ^ g := Nat.pow_add 2 53 g
  · intro wide
    have nonzero : n ≠ 0 := by
      rintro rfl
      rw [Nat.log2_zero] at h
      omega
    calc binade * 2 ^ g = 2 ^ (52 + g) := (Nat.pow_add 2 52 g).symm
      _ ≤ n := (Nat.le_log2 nonzero).1 (by omega)

/-- An exact number of steps is a multiple of its gap, which is as large as the binade allows. -/
lemma Exact.eq_mul {s : Nat} (hs : Exact s) :
    ∃ g q, g = s.log2 - 52 ∧ s = 2 ^ g * q ∧ q < 2 * binade ∧ (0 < g → binade ≤ q) ∧ g ≤ 2045 := by
  obtain ⟨q, hq⟩ := hs.dvd
  generalize hg : s.log2 - 52 = g at hq
  obtain ⟨upper, lower⟩ := gap_bounds hg
  rw [hq, Nat.mul_comm (2 ^ g)] at upper lower
  refine ⟨g, q, rfl, hq, Nat.lt_of_mul_lt_mul_right upper, ?_, ?_⟩
  · intro pos
    exact Nat.le_of_mul_le_mul_right (lower pos) (Nat.two_pow_pos g)
  · have := hs.lt
    omega

/-- An exact number of steps is not changed by rounding. -/
theorem nearest_exact {num den s : Nat} (h : 0 < den) (e : num * one = den * s) (hs : Exact s) :
    (nearest num den).steps = s ∧ (nearest num den).isFinite = true := by
  obtain ⟨g, q, hg, hq, upper, lower, top⟩ := hs.eq_mul
  have round : roundHalfEven (num * one) (den * 2 ^ g) = q := by
    have multiple : num * one = den * 2 ^ g * q := by
      rw [e, hq, Nat.mul_assoc]
    rw [multiple]
    exact roundHalfEven_mul (Nat.mul_pos h (Nat.two_pow_pos g)) q
  have div : num * one / den = s := by
    rw [e, Nat.mul_div_cancel_left s h]
  have bound : g * binade + q < infinity.place := by
    rw [place_infinity]
    rw [binade] at *
    omega
  have place : (nearest num den).place = g * binade + q := by
    rw [place_nearest, div, ← hg, round]
    exact Nat.min_eq_left (Nat.le_of_lt bound)
  constructor
  · -- Without a gap the multiple may lie below the first binade, where the steps are the place.
    by_cases pos : 0 < g
    · rw [steps_normal place (lower pos) upper, hq, Nat.mul_comm]
    · obtain rfl : g = 0 := by omega
      rw [Nat.zero_mul, Nat.zero_add] at place
      rw [steps_small (by omega), place, hq, Nat.pow_zero, Nat.one_mul]
  · rw [isFinite, place, decide_eq_true_eq]
    exact bound

/-- A place is a gap and a multiple of it. Beyond the first binade the multiple is between 2^52 and 2^53. -/
lemma exists_normal (m : Magnitude) :
    ∃ g q, m.place = g * binade + q ∧ m.steps = q * 2 ^ g ∧ q < 2 * binade ∧ (0 < g → binade ≤ q) := by
  by_cases small : m.place < binade
  · refine ⟨0, m.place, by omega, ?_, by omega, by omega⟩
    rw [steps_small (by omega), Nat.pow_zero, Nat.mul_one]
  · obtain ⟨g, q, place, lower, upper⟩ :
        ∃ g q, m.place = g * binade + q ∧ binade ≤ q ∧ q < 2 * binade := by
      refine ⟨m.place / binade - 1, m.place % binade + binade, ?_, ?_, ?_⟩
      all_goals
        rw [binade] at *
        omega
    exact ⟨g, q, place, steps_normal place lower upper, upper, fun _ => lower⟩

/-- A finite magnitude is a multiple of the gap that its number of steps tells. -/
lemma exists_gap {m : Magnitude} (h : m.isFinite = true) :
    ∃ g q, m.place = g * binade + q ∧ m.steps = q * 2 ^ g ∧ m.steps.log2 - 52 = g ∧
      m.steps.log2 < 2098 := by
  obtain ⟨g, q, place, steps, upper, lower⟩ := m.exists_normal
  have bound : m.place < 2047 * binade := by
    rw [isFinite, decide_eq_true_eq, place_infinity] at h
    exact h
  have high : m.steps < 2 ^ (53 + g) := by
    rw [steps, Nat.pow_add]
    exact Nat.mul_lt_mul_of_pos_right upper (Nat.two_pow_pos g)
  refine ⟨g, q, place, steps, ?_⟩
  by_cases zero : m.steps = 0
  -- Zero is in the lowest binade, where the gap is a single step.
  · have single : g = 0 := by
      rcases Nat.mul_eq_zero.1 (steps.symm.trans zero) with none | none
      · rw [binade] at lower
        omega
      · exact absurd none (Nat.ne_of_gt (Nat.two_pow_pos g))
    rw [zero, Nat.log2_zero, single]
    exact ⟨rfl, by decide⟩
  · have log := (Nat.log2_lt zero).2 high
    by_cases pos : 0 < g
    · have low : 2 ^ (52 + g) ≤ m.steps := by
        rw [steps, Nat.pow_add]
        exact Nat.mul_le_mul_right _ (lower pos)
      have log' := (Nat.le_log2 zero).2 low
      have least := lower pos
      rw [binade] at *
      omega
    · omega

/-- A finite magnitude has an exact number of steps. -/
theorem steps_exact {m : Magnitude} (h : m.isFinite = true) : Exact m.steps := by
  obtain ⟨g, q, -, steps, gap, lt⟩ := exists_gap h
  refine ⟨?_, lt⟩
  rw [gap, steps]
  exact Nat.dvd_mul_left ..

/-- A greater natural has no smaller logarithm. -/
lemma log2_le {m n : Nat} (h : m ≤ n) : m.log2 ≤ n.log2 := by
  by_cases zero : m = 0
  · rw [zero, Nat.log2_zero]
    exact Nat.zero_le _
  · exact (Nat.le_log2 (by omega)).2 (Nat.le_trans (Nat.log2_self_le zero) h)

/-- A small power of two divides the steps up to the number one. -/
lemma pow_dvd_one {k : Nat} (h : k ≤ 1074) : 2 ^ k ∣ one := by
  obtain ⟨n, hn, e⟩ := one_eq
  rw [e]
  exact Nat.pow_dvd_pow 2 (by omega)

/-- The steps up to the number one divide a large power of two. -/
lemma one_dvd_pow {k : Nat} (h : 1074 ≤ k) : one ∣ 2 ^ k := by
  obtain ⟨n, hn, e⟩ := one_eq
  rw [e]
  exact Nat.pow_dvd_pow 2 (by omega)

/-- The integer part of an exact number of steps is exact. -/
lemma Exact.floor {s : Nat} (hs : Exact s) : Exact (s / one * one) := by
  have le : s / one * one ≤ s := Nat.div_mul_le_self s one
  generalize hf : s / one * one = f at le
  have grows : f.log2 ≤ s.log2 := log2_le le
  by_cases small : f.log2 - 52 ≤ 1074
  · refine ⟨?_, Nat.lt_of_le_of_lt grows hs.lt⟩
    have gap : 2 ^ (f.log2 - 52) ∣ one := pow_dvd_one small
    rw [← hf] at gap ⊢
    exact Nat.dvd_mul_left_of_dvd gap _
  · -- Beyond 2^53 the gap is a multiple of one, so that there is no fraction.
    have whole : one ∣ s := Nat.dvd_trans (one_dvd_pow (by omega)) hs.dvd
    rw [← hf, Nat.div_mul_cancel whole]
    exact hs

/-- The integer part of a finite magnitude is not changed by rounding. -/
theorem floor_nearest_floor {m : Magnitude} (h : m.isFinite = true) :
    (nearest m.floor 1).floor = m.floor ∧ (nearest m.floor 1).isFinite = true := by
  have e : m.floor * one = 1 * (m.steps / one * one) := (Nat.one_mul _).symm
  obtain ⟨steps, finite⟩ := nearest_exact Nat.one_pos e (steps_exact h).floor
  refine ⟨?_, finite⟩
  rw [Magnitude.floor, steps]
  exact Nat.mul_div_cancel _ one_pos

end WorkflowExpr.Magnitude

namespace WorkflowExpr

/-- The integer part of a finite double is one of a finite magnitude if it is not negative. -/
lemma Double.truncate_eq_floor {x : Double} (h : x.isFinite = true) (h' : 0 ≤ x.truncate) :
    ∃ n : Nat, x.truncate = n ∧ ∃ m : Magnitude, m.isFinite = true ∧ m.floor = n := by
  cases x with
  | nan => cases h
  | signed negative m =>
    refine ⟨m.floor, ?_, m, h, rfl⟩
    cases negative with
    | false => rfl
    | true =>
      rw [truncate] at h' ⊢
      omega

end WorkflowExpr
