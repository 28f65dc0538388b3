import Mathlib.Algebra.Order.Field.Power
import Mathlib.Algebra.Order.Ring.Rat
import Mathlib.Tactic.FieldSimp
import Mathlib.Tactic.Linarith
import Mathlib.Tactic.Positivity
import Mathlib.Tactic.Ring
import WorkflowExpr.Proofs.Number.Nearest

/-!
# Correct rounding

`Magnitude.nearest` rounds correctly: no magnitude is nearer to the number than the one it gives, and of
two equally near ones that one has the even place. Infinity takes part in this as the power of two that
follows the finite magnitudes. The nearest magnitude is unique, and the numbers that have one nearest
magnitude are an interval around it.
-/

namespace WorkflowExpr.Magnitude

variable {m m' : Magnitude} {v w : ℚ}

/-- The number that a magnitude stands for, where infinity stands for 2^1024. -/
def toRat (m : Magnitude) : ℚ :=
  m.steps / one

/-- A magnitude is nearest to a number if none is nearer to it, and if its place is even when another
one is as near. -/
structure IsNearest (m : Magnitude) (v : ℚ) : Prop where
  le (m' : Magnitude) : |m.toRat - v| ≤ |m'.toRat - v|
  even {m' : Magnitude} : m' ≠ m → |m'.toRat - v| = |m.toRat - v| → m.place % 2 = 0

/-! ## The order of magnitudes -/

/-- In its binade a magnitude is as many gaps as its significand. -/
lemma steps_at {g q : Nat} (hm : m.place = g * binade + q) (upper : q ≤ 2 * binade)
    (lower : 0 < g → binade ≤ q) : m.steps = q * 2 ^ g := by
  rcases Nat.lt_or_eq_of_le upper with inside | rfl
  · by_cases gap : 0 < g
    · exact steps_normal hm (lower gap) inside
    · obtain rfl : g = 0 := by omega
      rw [Nat.zero_mul, Nat.zero_add] at hm
      rw [steps_small (by omega), hm, Nat.pow_zero, Nat.mul_one]
  · have next : m.place = (g + 1) * binade + binade := by
      rw [hm]
      ring
    rw [steps_normal next (Nat.le_refl _) (by decide)]
    ring

/-- Seen from a gap, a magnitude is a multiple of it or stays below its binade. -/
lemma steps_cases (m : Magnitude) (g : Nat) :
    (∃ k, m.steps = k * 2 ^ g) ∨
      ∃ h, g = h + 1 ∧ m.steps + 2 ^ h ≤ 2 * binade * 2 ^ h := by
  obtain ⟨g', q, -, steps, upper, -⟩ := m.exists_normal
  by_cases wide : g ≤ g'
  · refine .inl ⟨q * 2 ^ (g' - g), ?_⟩
    rw [steps, Nat.mul_assoc, ← Nat.pow_add, Nat.sub_add_cancel wide]
  · obtain ⟨h, rfl⟩ : ∃ h, g = h + 1 := ⟨g - 1, by omega⟩
    refine .inr ⟨h, rfl, ?_⟩
    calc m.steps + 2 ^ h ≤ q * 2 ^ h + 2 ^ h := by
          rw [steps]
          exact Nat.add_le_add_right (Nat.mul_le_mul_left q (Nat.pow_le_pow_right (by decide) (by omega))) _
      _ = (q + 1) * 2 ^ h := (Nat.succ_mul q _).symm
      _ ≤ 2 * binade * 2 ^ h := Nat.mul_le_mul_right _ upper

/-- A place farther on has more steps. -/
lemma steps_lt (h : m.place < m'.place) : m.steps < m'.steps := by
  obtain ⟨g, q, place, steps, upper, lower⟩ := m.exists_normal
  obtain ⟨g', q', place', steps', upper', lower'⟩ := m'.exists_normal
  rcases Nat.lt_trichotomy g g' with less | rfl | more
  · calc m.steps = q * 2 ^ g := steps
      _ < 2 * binade * 2 ^ g := Nat.mul_lt_mul_of_pos_right upper (Nat.two_pow_pos g)
      _ = binade * 2 ^ (g + 1) := by ring
      _ ≤ q' * 2 ^ g' := Nat.mul_le_mul (lower' (by omega)) (Nat.pow_le_pow_right (by decide) less)
      _ = m'.steps := steps'.symm
  · rw [steps, steps']
    exact Nat.mul_lt_mul_of_pos_right (by omega) (Nat.two_pow_pos g)
  · have large := lower (by omega)
    have := Nat.mul_le_mul_right binade more
    rw [binade] at *
    omega

/-- Each magnitude has its own number of steps. -/
lemma steps_injective (h : m.steps = m'.steps) : m = m' := by
  apply place_injective
  rcases Nat.lt_trichotomy m.place m'.place with less | same | more
  · exact absurd h (Nat.ne_of_lt (steps_lt less))
  · exact same
  · exact absurd h (Nat.ne_of_gt (steps_lt more))

/-- There are steps up to the number one. -/
lemma one_pos_rat : (0 : ℚ) < one :=
  Nat.cast_pos.2 one_pos

/-- A place farther on stands for a greater number. -/
lemma toRat_lt (h : m.place < m'.place) : m.toRat < m'.toRat :=
  div_lt_div_of_pos_right (Nat.cast_lt.2 (steps_lt h)) one_pos_rat

/-- Of two magnitudes one has the place farther on. -/
lemma place_lt_or_gt (h : m' ≠ m) : m'.place < m.place ∨ m.place < m'.place :=
  Nat.lt_or_gt_of_ne fun e => h (place_injective e)

/-! ## Rounding to a natural -/

/-- The natural that a quotient is rounded to is at most a half away, and even if it is a half away. -/
lemma roundHalfEven_half (num : Nat) {den : Nat} (h : 0 < den) :
    2 * |(roundHalfEven num den : ℚ) - num / den| ≤ 1 ∧
      (2 * |(roundHalfEven num den : ℚ) - num / den| = 1 → roundHalfEven num den % 2 = 0) := by
  have positive : (0 : ℚ) < den := Nat.cast_pos.2 h
  have parts : (num : ℚ) = (num / den : Nat) * den + (num % den : Nat) := by
    exact_mod_cast (Nat.div_add_mod' num den).symm
  have small : num % den < den := Nat.mod_lt num h
  unfold roundHalfEven
  dsimp only
  -- The quotient is q and a rest below one, by which alone it is rounded.
  generalize num / den = q at parts ⊢
  generalize num % den = r at parts small ⊢
  have quotient : (num : ℚ) / den = q + r / den := by
    rw [parts]
    field_simp
  have rest : (r : ℚ) / den < 1 := (div_lt_one positive).2 (Nat.cast_lt.2 small)
  have middle (tie : 2 * ((r : ℚ) / den) = 1) : 2 * r = den := by
    field_simp at tie
    exact_mod_cast tie
  split
  · next up =>
    have distance : |((q + 1 : Nat) : ℚ) - num / den| = 1 - r / den := by
      rw [quotient, abs_of_pos (by push_cast; linarith)]
      push_cast
      ring
    have half : den ≤ 2 * r := by omega
    have half : (1 : ℚ) ≤ 2 * (r / den) := by
      rw [← mul_div_assoc, le_div_iff₀ positive, one_mul]
      exact_mod_cast half
    rw [distance]
    refine ⟨by linarith, fun tie => ?_⟩
    have := middle (by linarith)
    omega
  · next down =>
    have distance : |(q : ℚ) - num / den| = r / den := by
      rw [quotient, sub_add_cancel_left, abs_neg, abs_of_nonneg (by positivity)]
    have half : 2 * r ≤ den := by omega
    have half : 2 * ((r : ℚ) / den) ≤ 1 := by
      rw [← mul_div_assoc, div_le_one positive]
      exact_mod_cast half
    rw [distance]
    refine ⟨half, fun tie => ?_⟩
    have := middle tie
    omega

/-- Different naturals are one apart at least. -/
lemma one_le_abs_sub {k q : Nat} (h : k ≠ q) : (1 : ℚ) ≤ |(k : ℚ) - q| := by
  exact_mod_cast Int.one_le_abs (sub_ne_zero.2 (Int.ofNat_inj.not.2 h))

/-- No natural is nearer to a quotient than the one that it is rounded to. -/
lemma roundHalfEven_nearest (num : Nat) {den : Nat} (h : 0 < den) (k : Nat) :
    |(roundHalfEven num den : ℚ) - num / den| ≤ |(k : ℚ) - num / den| ∧
      (k ≠ roundHalfEven num den →
        |(k : ℚ) - num / den| = |(roundHalfEven num den : ℚ) - num / den| →
          roundHalfEven num den % 2 = 0) := by
  obtain ⟨half, even⟩ := roundHalfEven_half num h
  generalize roundHalfEven num den = q at half even ⊢
  by_cases same : k = q
  · rw [same]
    exact ⟨le_rfl, fun other => absurd rfl other⟩
  · have apart := one_le_abs_sub same
    have through := abs_sub_le (k : ℚ) (num / den) q
    rw [abs_sub_comm (num / den : ℚ) q] at through
    exact ⟨by linarith, fun _ tie => even (by linarith)⟩

/-! ## Rounding to a magnitude -/

/-- The gap at a number and the multiple of it that the number is rounded to. -/
lemma exists_nearest (num : Nat) {den : Nat} (h : 0 < den) :
    ∃ g q, (nearest num den).place = min (g * binade + q) infinity.place ∧
      q = roundHalfEven (num * one) (den * 2 ^ g) ∧ q ≤ 2 * binade ∧
      (0 < g → binade ≤ q ∧ binade * (den * 2 ^ g) ≤ num * one) := by
  obtain ⟨g, hg⟩ : ∃ g, (num * one / den).log2 - 52 = g := ⟨_, rfl⟩
  obtain ⟨upper, lower⟩ := gap_bounds hg
  have whole : num * one / (den * 2 ^ g) = num * one / den / 2 ^ g :=
    (Nat.div_div_eq_div_mul ..).symm
  refine ⟨g, _, ?_, rfl, ?_, fun wide => ⟨?_, ?_⟩⟩
  · rw [place_nearest, hg]
  · refine Nat.le_trans (roundHalfEven_le _ _) ?_
    rw [whole, Nat.succ_le_iff, Nat.div_lt_iff_lt_mul (Nat.two_pow_pos g)]
    exact upper
  · refine Nat.le_trans ?_ (le_roundHalfEven _ _)
    rw [whole, Nat.le_div_iff_mul_le (Nat.two_pow_pos g)]
    exact lower wide
  · have above := lower wide
    rw [Nat.le_div_iff_mul_le h, Nat.mul_assoc, Nat.mul_comm (2 ^ g)] at above
    exact above

/-- A multiple of a gap is divided by the gap. -/
lemma steps_div {g k : Nat} (h : m.steps = k * 2 ^ g) : (m.steps : ℚ) / 2 ^ g = k := by
  rw [h]
  push_cast
  field_simp

/-- Distances in terms of a gap. -/
lemma abs_toRat_sub (m : Magnitude) (g : Nat) (x : ℚ) :
    |m.toRat - x * (2 ^ g / one)| = |m.steps / 2 ^ g - x| * (2 ^ g / one) := by
  have unit := one_pos_rat
  rw [toRat]
  generalize (one : ℚ) = u at unit
  have gap : (0 : ℚ) < 2 ^ g / u := by positivity
  rw [← abs_of_pos gap, ← abs_mul, abs_of_pos gap]
  congr 1
  field_simp

/-- The multiple of a gap that is nearest to a number of its binade is the nearest magnitude. -/
lemma isNearest_multiple {g q : Nat} {x : ℚ} (hm : m.steps = q * 2 ^ g) (parity : q % 2 = m.place % 2)
    (above : 0 < g → (binade : ℚ) ≤ x)
    (near : ∀ k : ℕ, |(q : ℚ) - x| ≤ |(k : ℚ) - x| ∧
      (k ≠ q → |(k : ℚ) - x| = |(q : ℚ) - x| → q % 2 = 0)) :
    m.IsNearest (x * (2 ^ g / one)) := by
  have gap : (0 : ℚ) < 2 ^ g / one := div_pos (by positivity) one_pos_rat
  have others {m' : Magnitude} (h : m' ≠ m) : |(q : ℚ) - x| ≤ |m'.steps / 2 ^ g - x| ∧
      (|m'.steps / 2 ^ g - x| = |(q : ℚ) - x| → q % 2 = 0) := by
    -- Another magnitude is a multiple of the gap, or it lies below the binade and so farther away.
    rcases m'.steps_cases g with ⟨k, steps'⟩ | ⟨g, rfl, bound⟩
    · rw [steps_div steps']
      refine ⟨(near k).1, (near k).2 ?_⟩
      rintro rfl
      exact h (steps_injective (steps'.trans hm.symm))
    · have below : (m'.steps : ℚ) / 2 ^ (g + 1) < binade := by
        have : m'.steps < binade * 2 ^ (g + 1) := by
          have := Nat.two_pow_pos g
          rw [Nat.pow_succ']
          linarith
        rw [div_lt_iff₀ (by positivity)]
        exact_mod_cast this
      have farther : |(q : ℚ) - x| < |m'.steps / 2 ^ (g + 1) - x| := by
        calc |(q : ℚ) - x| ≤ |(binade : ℚ) - x| := (near binade).1
          _ = x - binade := by rw [abs_sub_comm, abs_of_nonneg (sub_nonneg.2 (above (Nat.succ_pos g)))]
          _ < x - m'.steps / 2 ^ (g + 1) := sub_lt_sub_left below x
          _ ≤ |m'.steps / 2 ^ (g + 1) - x| := by
            rw [abs_sub_comm]
            exact le_abs_self _
      exact ⟨farther.le, fun tie => absurd tie farther.ne'⟩
  constructor
  · intro m'
    by_cases same : m' = m
    · rw [same]
    · rw [abs_toRat_sub, abs_toRat_sub, steps_div hm]
      exact mul_le_mul_of_nonneg_right (others same).1 gap.le
  · intro m' other tie
    rw [abs_toRat_sub, abs_toRat_sub, steps_div hm] at tie
    rw [← parity]
    exact (others other).2 (mul_right_cancel₀ gap.ne' tie)

/-- Infinity stands where the next binade would start. -/
lemma toRat_infinity : ∃ k, k = 2046 ∧ infinity.toRat = binade * (2 ^ k / one) := by
  obtain ⟨k, hk⟩ : ∃ k, k = 2046 := ⟨_, rfl⟩
  have place : infinity.place = k * binade + binade := by
    rw [hk]
    rfl
  refine ⟨k, hk, ?_⟩
  rw [toRat, steps_at place (by decide) fun _ => Nat.le_refl _]
  push_cast
  rw [mul_div_assoc]

/-- From 2^1024 on infinity is the nearest magnitude. -/
lemma isNearest_infinity (h : infinity.toRat ≤ v) : infinity.IsNearest v := by
  constructor
  · intro m
    have le : m.toRat ≤ infinity.toRat := by
      rcases Nat.lt_or_eq_of_le m.le_infinity with less | equal
      · exact (toRat_lt less).le
      · have same : m = infinity := place_injective equal
        rw [same]
    rw [abs_of_nonpos (by linarith), abs_of_nonpos (by linarith)]
    linarith
  · intros
    rfl

/-- Rounding is correct: it gives the magnitude that is nearest to the quotient. -/
theorem nearest_isNearest (num : Nat) {den : Nat} (h : 0 < den) :
    (nearest num den).IsNearest (num / den) := by
  obtain ⟨g, q, place, round, upper, lower⟩ := exists_nearest num h
  have near := roundHalfEven_nearest (num * one) (Nat.mul_pos h (Nat.two_pow_pos g))
  rw [← round] at near
  have positive : (0 : ℚ) < den := Nat.cast_pos.2 h
  have above (wide : 0 < g) : (binade : ℚ) ≤ (num * one : Nat) / (den * 2 ^ g : Nat) := by
    rw [le_div_iff₀ (by positivity)]
    exact_mod_cast (lower wide).2
  have number : (num : ℚ) / den = ((num * one : Nat) : ℚ) / (den * 2 ^ g : Nat) * (2 ^ g / one) := by
    have unit := one_pos_rat
    push_cast
    generalize (one : ℚ) = u at unit
    field_simp
  rw [number]
  by_cases finite : g * binade + q ≤ infinity.place
  · rw [Nat.min_eq_left finite] at place
    refine isNearest_multiple (steps_at place upper fun wide => (lower wide).1) ?_ above near
    rw [place, binade]
    omega
  -- The number is no less than the least of its binade, which is infinity or beyond.
  · have beyond : nearest num den = infinity :=
      place_injective (place.trans (Nat.min_eq_right (Nat.le_of_not_le finite)))
    rw [beyond]
    apply isNearest_infinity
    obtain ⟨k, hk, infinite⟩ := toRat_infinity
    have wide : k ≤ g := by
      rw [place_infinity, binade] at finite
      rw [binade] at upper
      omega
    have gap : (2 ^ k / one : ℚ) ≤ 2 ^ g / one :=
      div_le_div_of_nonneg_right (pow_le_pow_right₀ one_le_two wide) one_pos_rat.le
    rw [infinite]
    exact mul_le_mul (above (by omega)) gap (div_nonneg (by positivity) one_pos_rat.le)
      (div_nonneg (Nat.cast_nonneg _) (Nat.cast_nonneg _))

/-! ## The numbers with one nearest magnitude -/

/-- A number is nearer to the smaller of two when it is not beyond their middle. -/
lemma abs_sub_le_left {a b : ℚ} (h : a < b) : |a - v| ≤ |b - v| ↔ 2 * v ≤ a + b := by
  rw [← sq_le_sq, ← sub_nonneg, show (b - v) ^ 2 - (a - v) ^ 2 = (b - a) * (a + b - 2 * v) by ring,
    mul_nonneg_iff_of_pos_left (sub_pos.2 h), sub_nonneg]

/-- A number is nearer to the greater of two when it is not before their middle. -/
lemma abs_sub_le_right {a b : ℚ} (h : a < b) : |b - v| ≤ |a - v| ↔ a + b ≤ 2 * v := by
  rw [← sq_le_sq, ← sub_nonneg, show (a - v) ^ 2 - (b - v) ^ 2 = (b - a) * (2 * v - (a + b)) by ring,
    mul_nonneg_iff_of_pos_left (sub_pos.2 h), sub_nonneg]

/-- The middle between two magnitudes decides which of them is nearer. -/
lemma isNearest_iff : m.IsNearest v ↔
    (∀ m' : Magnitude, m'.place < m.place →
      m'.toRat + m.toRat ≤ 2 * v ∧ (2 * v ≤ m'.toRat + m.toRat → m.place % 2 = 0)) ∧
    (∀ m' : Magnitude, m.place < m'.place →
      2 * v ≤ m.toRat + m'.toRat ∧ (m.toRat + m'.toRat ≤ 2 * v → m.place % 2 = 0)) := by
  constructor
  · intro near
    refine ⟨fun m' less => ⟨?_, fun middle => ?_⟩, fun m' more => ⟨?_, fun middle => ?_⟩⟩
    · exact (abs_sub_le_right (toRat_lt less)).1 (near.le m')
    · have other : m' ≠ m := fun e => Nat.ne_of_lt less (congrArg place e)
      exact near.even other (le_antisymm ((abs_sub_le_left (toRat_lt less)).2 middle) (near.le m'))
    · exact (abs_sub_le_left (toRat_lt more)).1 (near.le m')
    · have other : m' ≠ m := fun e => Nat.ne_of_gt more (congrArg place e)
      exact near.even other (le_antisymm ((abs_sub_le_right (toRat_lt more)).2 middle) (near.le m'))
  · rintro ⟨left, right⟩
    constructor
    · intro m'
      by_cases same : m' = m
      · rw [same]
      · rcases place_lt_or_gt same with less | more
        · exact (abs_sub_le_right (toRat_lt less)).2 (left m' less).1
        · exact (abs_sub_le_left (toRat_lt more)).2 (right m' more).1
    · intro m' other tie
      rcases place_lt_or_gt other with less | more
      · exact (left m' less).2 ((abs_sub_le_left (toRat_lt less)).1 tie.le)
      · exact (right m' more).2 ((abs_sub_le_right (toRat_lt more)).1 tie.le)

/-- The nearest magnitude is unique. -/
theorem IsNearest.unique (h : m.IsNearest v) (h' : m'.IsNearest v) : m = m' := by
  have order {m m' : Magnitude} (h : m.IsNearest v) (h' : m'.IsNearest v) : ¬ m.place < m'.place := by
    intro less
    obtain ⟨-, right⟩ := isNearest_iff.1 h
    obtain ⟨left, -⟩ := isNearest_iff.1 h'
    -- Both are equally near and so have even places, which leaves room for a nearer one.
    have even := (right m' less).2 (left m less).1
    have even' := (left m less).2 (right m' less).1
    have finite := m'.le_infinity
    obtain ⟨next, place⟩ : ∃ next : Magnitude, next.place = m.place + 1 :=
      ⟨⟨m.place + 1, by omega⟩, rfl⟩
    have nearer := (right next (by omega)).1
    have middle := (left m less).1
    have := toRat_lt (show next.place < m'.place by omega)
    linarith
  by_contra other
  rcases place_lt_or_gt other with less | more
  · exact order h h' less
  · exact order h' h more

/-- What lies between two numbers with the same nearest magnitude has this nearest magnitude too. -/
theorem IsNearest.between {u : ℚ} (h : m.IsNearest u) (h' : m.IsNearest w) (le : u ≤ v) (le' : v ≤ w) :
    m.IsNearest v := by
  obtain ⟨left, -⟩ := isNearest_iff.1 h
  obtain ⟨-, right⟩ := isNearest_iff.1 h'
  refine isNearest_iff.2 ⟨fun m' less => ?_, fun m' more => ?_⟩
  · obtain ⟨above, even⟩ := left m' less
    exact ⟨by linarith, fun middle => even (by linarith)⟩
  · obtain ⟨below, even⟩ := right m' more
    exact ⟨by linarith, fun middle => even (by linarith)⟩

/-- A magnitude differs from every other one by at least 2^-53 of itself. -/
lemma toRat_apart (h : m' ≠ m) : m.toRat ≤ 2 ^ 53 * |m'.toRat - m.toRat| := by
  obtain ⟨g, q, -, steps, upper, lower⟩ := m.exists_normal
  have gap : (0 : ℚ) < 2 ^ g / one := div_pos (by positivity) one_pos_rat
  have number : m.toRat = q * (2 ^ g / one) := by
    rw [toRat, steps]
    push_cast
    rw [mul_div_assoc]
  have whole : (binade : ℚ) = 2 ^ 52 := by norm_num [binade]
  have apart : (q : ℚ) ≤ 2 ^ 53 * |(m'.steps : ℚ) / 2 ^ g - q| := by
    rcases m'.steps_cases g with ⟨k, steps'⟩ | ⟨g, rfl, bound⟩
    · have other : k ≠ q := by
        rintro rfl
        exact h (steps_injective (steps'.trans steps.symm))
      have upper : (q : ℚ) ≤ 2 * binade := by exact_mod_cast upper.le
      have := one_le_abs_sub other
      rw [steps_div steps']
      linarith
    · have lower : (binade : ℚ) ≤ q := by exact_mod_cast lower (Nat.succ_pos g)
      have below : (m'.steps : ℚ) / 2 ^ (g + 1) ≤ binade - 1 / 2 := by
        have bound : (m'.steps : ℚ) + 2 ^ g ≤ 2 * binade * 2 ^ g := by exact_mod_cast bound
        rw [div_le_iff₀ (by positivity), pow_succ]
        linarith
      have distance := neg_le_abs (m'.steps / 2 ^ (g + 1) - q : ℚ)
      linarith
  rw [number, abs_toRat_sub, ← mul_assoc]
  exact mul_le_mul_of_nonneg_right apart gap.le

/-- A magnitude is the nearest one to all numbers that are less than 2^-54 of it away. -/
lemma isNearest_close (h : 2 ^ 54 * |m.toRat - v| < m.toRat) : m.IsNearest v := by
  have farther {m' : Magnitude} (other : m' ≠ m) : |m.toRat - v| < |m'.toRat - v| := by
    have apart := toRat_apart other
    have through := abs_sub_le m'.toRat v m.toRat
    rw [abs_sub_comm v] at through
    linarith
  refine ⟨fun m' => ?_, fun other tie => absurd tie (farther other).ne'⟩
  by_cases same : m' = m
  · rw [same]
  · exact (farther same).le

/-- A magnitude is nearest to itself. -/
lemma isNearest_toRat (m : Magnitude) : m.IsNearest m.toRat := by
  refine ⟨fun m' => ?_, fun {m'} other tie => ?_⟩
  · rw [sub_self, abs_zero]
    exact abs_nonneg _
  · rw [sub_self, abs_zero, abs_eq_zero, sub_eq_zero] at tie
    rcases place_lt_or_gt other with less | more
    · exact absurd tie (toRat_lt less).ne
    · exact absurd tie (toRat_lt more).ne'

/-- On the way from a number to its nearest magnitude the nearest magnitude stays the same. -/
lemma IsNearest.toward (h : m.IsNearest w) (way : (w ≤ v ∧ v ≤ m.toRat) ∨ (m.toRat ≤ v ∧ v ≤ w)) :
    m.IsNearest v ∧ |v - m.toRat| ≤ |w - m.toRat| := by
  rcases way with ⟨le, le'⟩ | ⟨le, le'⟩
  · refine ⟨h.between m.isNearest_toRat le le', ?_⟩
    rw [abs_of_nonpos (by linarith), abs_of_nonpos (by linarith)]
    linarith
  · refine ⟨m.isNearest_toRat.between h le le', ?_⟩
    rw [abs_of_nonneg (by linarith), abs_of_nonneg (by linarith)]
    linarith

/-- A magnitude that is a natural is the one that this natural is rounded to. -/
lemma nearest_floor (h : m.isIntegral = true) : nearest m.floor 1 = m := by
  rw [isIntegral, Bool.and_eq_true, beq_iff_eq] at h
  have steps : m.floor * one = m.steps := Nat.div_mul_cancel (Nat.dvd_of_mod_eq_zero h.2)
  have number : (m.floor : ℚ) / (1 : Nat) = m.toRat := by
    rw [toRat, ← steps, Nat.cast_one, div_one, Nat.cast_mul, mul_div_cancel_right₀ _ one_pos_rat.ne']
  have near := nearest_isNearest m.floor Nat.one_pos
  rw [number] at near
  exact near.unique m.isNearest_toRat

end WorkflowExpr.Magnitude
