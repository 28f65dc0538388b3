import WorkflowExpr.Proofs.Number.Rounding
import WorkflowExpr.Proofs.Text.Digit

/-!
# Decimals with the fewest digits

A decimal stands for the magnitude that is nearest to it. Among the decimals that stand for a magnitude
`Magnitude.shortest` has the fewest digits, and of those with as few digits it is the nearest to the
magnitude. The search for it starts at the power of ten of the first digit and goes down. It ends at the
first power of ten that has a multiple which stands for the magnitude, after seventeen of them at the
latest.
-/

namespace WorkflowExpr

variable {m : Magnitude}

namespace Decimal

/-- The number that a decimal is. -/
def toRat (d : Decimal) : ℚ :=
  d.coefficient * 10 ^ d.exponent

/-- A decimal has a number of digits if it is a natural with so many digits times a power of ten. -/
def HasDigits (d : Decimal) (n : Nat) : Prop :=
  ∃ c : Nat, ∃ e : Int, c < 10 ^ n ∧ d.toRat = c * 10 ^ e

/-- A decimal is the shortest of a magnitude if it stands for it, no decimal that does has fewer digits,
and of those that have no more digits none is nearer to the magnitude. -/
structure IsShortest (d : Decimal) (m : Magnitude) : Prop where
  nearest : d.toMagnitude = m
  fewest {d' : Decimal} {n : Nat} : d'.toMagnitude = m → d'.HasDigits n → d.HasDigits n
  closest {d' : Decimal} : d'.toMagnitude = m → (∀ n, d.HasDigits n → d'.HasDigits n) →
    |d.toRat - m.toRat| ≤ |d'.toRat - m.toRat|

/-- A power of ten is a quotient of powers with natural exponents. -/
lemma ten_zpow (e : Int) : (10 : ℚ) ^ e = 10 ^ e.toNat / 10 ^ (-e).toNat := by
  obtain ⟨n, rfl | rfl⟩ := e.eq_nat_or_neg
  · rw [zpow_natCast, Int.toNat_natCast, Int.toNat_neg_natCast, pow_zero, div_one]
  · rw [zpow_neg, zpow_natCast, neg_neg, Int.toNat_natCast, Int.toNat_neg_natCast, pow_zero, one_div]

/-- A power of ten may stand in the coefficient or in the exponent. -/
lemma toRat_scale (c k : Nat) (e : Int) : toRat ⟨c * 10 ^ k, e⟩ = toRat ⟨c, e + k⟩ := by
  rw [toRat, toRat]
  dsimp only
  push_cast
  rw [zpow_add₀ (by norm_num), zpow_natCast, mul_assoc, mul_comm (10 ^ k : ℚ)]

/-- A decimal stands for the magnitude that is nearest to it. -/
theorem toMagnitude_eq_iff {d : Decimal} : d.toMagnitude = m ↔ m.IsNearest d.toRat := by
  have positive : 0 < 10 ^ (-d.exponent).toNat := Nat.pow_pos (by decide)
  have near := Magnitude.nearest_isNearest (d.coefficient * 10 ^ d.exponent.toNat) positive
  have number : ((d.coefficient * 10 ^ d.exponent.toNat : Nat) : ℚ) / (10 ^ (-d.exponent).toNat : Nat) =
      d.toRat := by
    rw [toRat, ten_zpow]
    push_cast
    rw [mul_div_assoc]
  rw [number, ← toMagnitude_eq_nearest] at near
  constructor
  · rintro rfl
    exact near
  · exact near.unique

end Decimal

namespace Magnitude

/-- A magnitude at a power of ten is a quotient of naturals. -/
lemma toRat_div (m : Magnitude) (e : Int) :
    ((m.steps * 10 ^ (-e).toNat : Nat) : ℚ) / (one * 10 ^ e.toNat : Nat) = m.toRat / 10 ^ e := by
  have unit := one_pos_rat
  rw [toRat, Decimal.ten_zpow]
  push_cast
  generalize (one : ℚ) = u at unit
  field_simp

/-- A quotient lies between its integer part and the next natural. -/
lemma quotient_bounds (num : Nat) {den : Nat} (h : 0 < den) :
    ((num / den : Nat) : ℚ) ≤ num / den ∧ (num : ℚ) / den < (num / den + 1 : Nat) := by
  have positive : (0 : ℚ) < den := Nat.cast_pos.2 h
  constructor
  · rw [le_div_iff₀ positive]
    exact_mod_cast Nat.div_mul_le_self num den
  · rw [div_lt_iff₀ positive]
    have next := Nat.lt_mul_div_succ num h
    rw [Nat.mul_comm] at next
    exact_mod_cast next

/-- The two multiples of a power of ten that are tried enclose the magnitude, the nearer one first. -/
lemma decimalAt_eq (m : Magnitude) (e : Int) :
    ∃ near far : Nat, m.decimalAt? e = (
        if Decimal.toMagnitude ⟨near, e⟩ = m then some ⟨near, e⟩
        else if Decimal.toMagnitude ⟨far, e⟩ = m then some ⟨far, e⟩
        else none) ∧
      (∀ k : ℕ, |near - m.toRat / 10 ^ e| ≤ |k - m.toRat / 10 ^ e|) ∧
      (far = near + 1 ∧ near ≤ m.toRat / 10 ^ e ∧ m.toRat / 10 ^ e ≤ far ∨
        near = far + 1 ∧ far ≤ m.toRat / 10 ^ e ∧ m.toRat / 10 ^ e ≤ near) := by
  obtain ⟨num, den, hnum, hden, search⟩ : ∃ num den, num = m.steps * 10 ^ (-e).toNat ∧
      den = one * 10 ^ e.toNat ∧ m.decimalAt? e =
        let far := if roundHalfEven num den = num / den then num / den + 1 else num / den
        if Decimal.toMagnitude ⟨roundHalfEven num den, e⟩ = m then some ⟨roundHalfEven num den, e⟩
        else if Decimal.toMagnitude ⟨far, e⟩ = m then some ⟨far, e⟩
        else none := ⟨_, _, rfl, rfl, rfl⟩
  have positive : 0 < den := by
    rw [hden]
    exact Nat.mul_pos one_pos (Nat.pow_pos (by decide))
  have quotient : (num : ℚ) / den = m.toRat / 10 ^ e := by rw [hnum, hden, toRat_div]
  have nearest (k : Nat) := (roundHalfEven_nearest num positive k).1
  obtain ⟨below, above⟩ := quotient_bounds num positive
  have low := le_roundHalfEven num den
  have high := roundHalfEven_le num den
  rw [quotient] at nearest below above
  refine ⟨_, _, search, nearest, ?_⟩
  by_cases down : roundHalfEven num den = num / den
  · rw [if_pos down, down]
    exact .inl ⟨rfl, below, above.le⟩
  · have up : roundHalfEven num den = num / den + 1 := by omega
    rw [if_neg down, up]
    exact .inr ⟨rfl, below, above.le⟩

/-- If a multiple of a power of ten stands for a magnitude, then the search there finds one that does and
is no farther away, and that is not beyond the next multiple after the magnitude. -/
lemma decimalAt_closest {e : Int} {c : Nat} (h : m.IsNearest (c * 10 ^ e)) :
    ∃ a : Nat, m.decimalAt? e = some ⟨a, e⟩ ∧
      |a * 10 ^ e - m.toRat| ≤ |c * 10 ^ e - m.toRat| ∧ a * 10 ^ e ≤ m.toRat + 10 ^ e := by
  obtain ⟨near, far, search, nearest, enclosed⟩ := m.decimalAt_eq e
  have unit : (0 : ℚ) < 10 ^ e := zpow_pos (by norm_num) e
  have reads {a : Nat} (h : m.IsNearest (a * 10 ^ e)) : Decimal.toMagnitude ⟨a, e⟩ = m :=
    Decimal.toMagnitude_eq_iff.2 h
  have number : m.toRat = m.toRat / 10 ^ e * 10 ^ e := (div_mul_cancel₀ _ unit.ne').symm
  generalize m.toRat / 10 ^ e = x at nearest enclosed number
  have le {a : Nat} (h : (a : ℚ) ≤ x) : a * 10 ^ e ≤ m.toRat :=
    number ▸ mul_le_mul_of_nonneg_right h unit.le
  have ge {a : Nat} (h : x ≤ a) : m.toRat ≤ a * 10 ^ e :=
    number ▸ mul_le_mul_of_nonneg_right h unit.le
  have ordered {a b : Nat} (h : a ≤ b) : (a : ℚ) * 10 ^ e ≤ b * 10 ^ e :=
    mul_le_mul_of_nonneg_right (Nat.cast_le.2 h) unit.le
  have bounded {a : Nat} (h : (a : ℚ) ≤ x + 1) : a * 10 ^ e ≤ m.toRat + 10 ^ e := by
    rw [number, ← add_one_mul]
    exact mul_le_mul_of_nonneg_right h unit.le
  by_cases nearer : Decimal.toMagnitude ⟨near, e⟩ = m
  · rw [if_pos nearer] at search
    refine ⟨near, search, ?_, bounded ?_⟩
    · rw [number, ← sub_mul, ← sub_mul, abs_mul, abs_mul]
      exact mul_le_mul_of_nonneg_right (nearest c) (abs_nonneg _)
    · rcases enclosed with ⟨-, below, -⟩ | ⟨rfl, below, -⟩
      · linarith
      · push_cast
        linarith
  · rw [if_neg nearer] at search
    -- Then no multiple on the side of the nearer one stands for the magnitude.
    rcases enclosed with ⟨rfl, below, above⟩ | ⟨rfl, below, above⟩
    · have beyond : near + 1 ≤ c := by
        by_contra within
        exact nearer (reads (h.toward (.inl ⟨ordered (by omega), le below⟩)).1)
      obtain ⟨other, closer⟩ := h.toward (.inr ⟨ge above, ordered beyond⟩)
      rw [if_pos (reads other)] at search
      refine ⟨near + 1, search, closer, bounded ?_⟩
      push_cast
      linarith
    · have beyond : c ≤ far := by
        by_contra within
        exact nearer (reads (h.toward (.inr ⟨ge above, ordered (by omega)⟩)).1)
      obtain ⟨other, closer⟩ := h.toward (.inl ⟨ordered beyond, le below⟩)
      rw [if_pos (reads other)] at search
      exact ⟨far, search, closer, bounded (by linarith)⟩

/-- A positive magnitude has its first digit at its decimal exponent. -/
lemma decimalExponent_bounds (h : m.place ≠ 0) :
    10 ^ m.decimalExponent ≤ m.toRat ∧ m.toRat < 10 ^ (m.decimalExponent + 1) := by
  obtain ⟨k, hk, exponent⟩ : ∃ k : Nat, k = 400 ∧
      m.decimalExponent + 401 = (Nat.toDigits 10 (m.steps * Nat.pow 10 k / one)).length := by
    refine ⟨400, rfl, ?_⟩
    unfold decimalExponent
    generalize 400 = k
    exact Int.sub_add_cancel ..
  rw [show Nat.pow 10 k = 10 ^ k from rfl] at exponent
  have steps : 0 < m.steps := steps_lt (m := zero) (Nat.pos_of_ne_zero h)
  have whole : one ≤ m.steps * 10 ^ k := by
    obtain ⟨n, hn, e⟩ := one_eq
    calc one = 2 ^ n := e
      _ ≤ 2 ^ (3 * k) := Nat.pow_le_pow_right (by decide) (by omega)
      _ ≤ 10 ^ k := Decimal.two_pow_le_ten_pow k
      _ ≤ m.steps * 10 ^ k := Nat.le_mul_of_pos_left _ steps
  have quotient : ((m.steps * 10 ^ k : Nat) : ℚ) / one = m.toRat * 10 ^ k := by
    rw [toRat]
    push_cast
    rw [div_mul_eq_mul_div]
  obtain ⟨below, above⟩ := quotient_bounds (m.steps * 10 ^ k) one_pos
  rw [quotient] at below above
  obtain ⟨l, length, low, high⟩ := Text.length_toDigits (Nat.ne_of_gt (Nat.div_pos whole one_pos))
  generalize m.steps * 10 ^ k / one = n at exponent below above length low high
  have first : m.decimalExponent = l - k := by
    rw [length] at exponent
    omega
  have unit : (0 : ℚ) < 10 ^ k := by positivity
  constructor
  · rw [first, zpow_sub₀ (by norm_num), zpow_natCast, zpow_natCast, div_le_iff₀ unit]
    exact le_trans (by exact_mod_cast low) below
  · rw [first, sub_add_eq_add_sub, zpow_sub₀ (by norm_num), zpow_natCast, ← Nat.cast_succ, zpow_natCast,
      lt_div_iff₀ unit]
    exact lt_of_lt_of_le above (by exact_mod_cast high)

/-- The magnitude at the first place is zero. -/
lemma toRat_eq_zero (h : m.place = 0) : m.toRat = 0 := by
  rw [toRat, steps_small (by rw [h]; decide), h, Nat.cast_zero, zero_div]

/-- Only the magnitude at the first place is nearest to zero. -/
lemma isNearest_zero_iff : m.IsNearest 0 ↔ m.place = 0 := by
  have itself := zero.isNearest_toRat
  rw [toRat_eq_zero rfl] at itself
  constructor
  · intro h
    rw [h.unique itself]
    rfl
  · intro h
    have same : m = zero := place_injective h
    rwa [same]

/-- Seventeen digits suffice: a half of the last one is less than 2^-54 of the magnitude. -/
lemma exists_seventeen (m : Magnitude) : ∃ c : Nat, m.IsNearest (c * 10 ^ (m.decimalExponent - 16)) := by
  by_cases zero : m.place = 0
  · refine ⟨0, ?_⟩
    rw [Nat.cast_zero, zero_mul]
    exact isNearest_zero_iff.2 zero
  · obtain ⟨low, -⟩ := decimalExponent_bounds zero
    have wide : (10 : ℚ) ^ m.decimalExponent = 10 ^ (m.decimalExponent - 16) * 10 ^ 16 := by
      rw [← zpow_natCast, ← zpow_add₀ (by norm_num), Nat.cast_ofNat, sub_add_cancel]
    rw [wide] at low
    generalize m.decimalExponent - 16 = e at low
    have positive : 0 < one * 10 ^ e.toNat := Nat.mul_pos one_pos (Nat.pow_pos (by decide))
    obtain ⟨half, -⟩ := roundHalfEven_half (m.steps * 10 ^ (-e).toNat) positive
    generalize roundHalfEven (m.steps * 10 ^ (-e).toNat) (one * 10 ^ e.toNat) = c at half
    rw [toRat_div, abs_sub_comm] at half
    have unit : (0 : ℚ) < 10 ^ e := zpow_pos (by norm_num) e
    refine ⟨c, isNearest_close ?_⟩
    have distance : |m.toRat - c * 10 ^ e| = |m.toRat / 10 ^ e - c| * 10 ^ e := by
      rw [← abs_of_pos unit, ← abs_mul, abs_of_pos unit, sub_mul, div_mul_cancel₀ _ unit.ne']
    rw [distance]
    calc 2 ^ 54 * (|m.toRat / 10 ^ e - c| * 10 ^ e)
      _ = 2 ^ 53 * 10 ^ e * (2 * |m.toRat / 10 ^ e - c|) := by ring
      _ ≤ 2 ^ 53 * 10 ^ e * 1 := mul_le_mul_of_nonneg_left half (by positivity)
      _ < 10 ^ e * 10 ^ 16 := by linarith
      _ ≤ m.toRat := low

/-- A decimal that stands for a magnitude and has few digits leads to one that is no farther away and a
multiple of the power of ten at which the magnitude has its last digit of as many. -/
lemma exists_multiple {c n : Nat} {e : Int} (positive : m.place ≠ 0) (hc : c < 10 ^ (n + 1))
    (h : m.IsNearest (c * 10 ^ e)) :
    ∃ a : Nat, m.IsNearest (a * 10 ^ (m.decimalExponent - n)) ∧
      |a * 10 ^ (m.decimalExponent - n) - m.toRat| ≤ |c * 10 ^ e - m.toRat| := by
  obtain ⟨low, -⟩ := decimalExponent_bounds positive
  generalize m.decimalExponent = first at low
  by_cases coarse : first - n ≤ e
  -- With a greater power of ten the decimal is such a multiple itself.
  · have same : ((c * 10 ^ (e - (first - n)).toNat : Nat) : ℚ) * 10 ^ (first - n) = c * 10 ^ e := by
      push_cast
      rw [mul_assoc, ← zpow_natCast, ← zpow_add₀ (by norm_num)]
      congr 2
      omega
    refine ⟨c * 10 ^ (e - (first - n)).toNat, ?_⟩
    rw [same]
    exact ⟨h, le_rfl⟩
  · -- The power of ten of the first digit is nearer.
    have power : ((10 ^ n : Nat) : ℚ) * 10 ^ (first - n) = 10 ^ first := by
      push_cast
      rw [← zpow_natCast, ← zpow_add₀ (by norm_num), add_sub_cancel]
    have small : (c : ℚ) * 10 ^ e ≤ 10 ^ first := by
      calc (c : ℚ) * 10 ^ e ≤ 10 ^ (n + 1) * 10 ^ (first - n - 1) := by
            refine mul_le_mul ?_ (zpow_le_zpow_right₀ (by norm_num) (by omega)) ?_ (by positivity)
            · exact_mod_cast hc.le
            · exact (zpow_pos (by norm_num) e).le
        _ = 10 ^ first := by
            rw [← zpow_natCast, ← zpow_add₀ (by norm_num)]
            congr 1
            omega
    refine ⟨10 ^ n, ?_⟩
    rw [power]
    exact h.toward (.inl ⟨small, low⟩)

/-- The search ends at the first power of ten, from that of the first digit down, that has a multiple
which stands for the magnitude. -/
lemma exists_found (m : Magnitude) :
    ∃ k : Nat, m.decimalAt? (m.decimalExponent - k) = some m.shortest ∧
      ∀ j < k, m.decimalAt? (m.decimalExponent - j) = none := by
  obtain ⟨c, seventeen⟩ := m.exists_seventeen
  obtain ⟨a, last, -, -⟩ := decimalAt_closest seventeen
  rw [shortest]
  cases search : (List.range 17).findSome? fun k : Nat => m.decimalAt? (m.decimalExponent - k) with
  | none =>
    have failed := List.findSome?_eq_none_iff.1 search 16 (by decide)
    cases last.symm.trans failed
  | some d =>
    obtain ⟨before, k, after, range, found, unfound⟩ := List.findSome?_eq_some_iff.1 search
    refine ⟨k, found, fun j less => unfound j ?_⟩
    rw [List.range_eq_range', List.range'_eq_append_iff] at range
    obtain ⟨size, -, rfl, rest⟩ := range
    obtain ⟨start, -, -⟩ := List.range'_eq_cons_iff.1 rest.symm
    rw [List.mem_range'_1]
    omega

end Magnitude

namespace Decimal

variable {d : Decimal}

/-- A decimal with so many digits has any greater number of digits, too. -/
lemma HasDigits.mono {n n' : Nat} (h : d.HasDigits n) (le : n ≤ n') : d.HasDigits n' := by
  obtain ⟨c, e, small, number⟩ := h
  exact ⟨c, e, Nat.lt_of_lt_of_le small (Nat.pow_le_pow_right (by decide) le), number⟩

/-- Zero has any number of digits. -/
lemma hasDigits_zero (h : d.toRat = 0) (n : Nat) : d.HasDigits n :=
  ⟨0, 0, Nat.pow_pos (by decide), by rw [h, Nat.cast_zero, zero_mul]⟩

/-- Being the shortest is a matter of the number alone. -/
lemma IsShortest.congr {d' : Decimal} (h : d.IsShortest m) (e : d'.toRat = d.toRat) : d'.IsShortest m := by
  refine ⟨?_, fun stands digits => ?_, fun stands digits => ?_⟩
  · rw [toMagnitude_eq_iff, e]
    exact toMagnitude_eq_iff.1 h.nearest
  · rw [HasDigits, e]
    exact h.fewest stands digits
  · rw [e]
    refine h.closest stands fun n hn => digits n ?_
    rwa [HasDigits, e]

/-- What the search finds has no more digits than powers of ten were tried. -/
lemma hasDigits_found {k : Nat} (positive : m.place ≠ 0)
    (found : m.decimalAt? (m.decimalExponent - k) = some d) : d.HasDigits (k + 1) := by
  obtain ⟨nearest, exponent⟩ := Magnitude.decimalAt_eq_some found
  obtain ⟨-, high⟩ := Magnitude.decimalExponent_bounds positive
  generalize m.decimalExponent = first at found exponent high
  have itself := toMagnitude_eq_iff.1 nearest
  rw [toRat, exponent] at itself
  obtain ⟨a, same, -, bound⟩ := Magnitude.decimalAt_closest itself
  cases found.symm.trans same
  have unit : (0 : ℚ) < 10 ^ (first - k) := zpow_pos (by norm_num) _
  have power : (10 : ℚ) ^ (first + 1) = (10 ^ (k + 1) : Nat) * 10 ^ (first - k) := by
    push_cast
    rw [← zpow_natCast, ← zpow_add₀ (by norm_num)]
    congr 1
    omega
  have small : a < 10 ^ (k + 1) + 1 := by
    have below : (a : ℚ) * 10 ^ (first - k) < (10 ^ (k + 1) + 1 : Nat) * 10 ^ (first - k) := by
      rw [Nat.cast_succ, add_one_mul, ← power]
      linarith
    exact Nat.cast_lt.1 (lt_of_mul_lt_mul_right below unit.le)
  rcases Nat.lt_or_eq_of_le (Nat.le_of_lt_succ small) with less | rfl
  · exact ⟨a, first - k, less, rfl⟩
  · -- The next power of ten has a single digit.
    refine ⟨1, first + 1, Nat.one_lt_pow (Nat.succ_ne_zero k) (by decide), ?_⟩
    rw [Nat.cast_one, one_mul, power]
    rfl

/-- The search gives the shortest decimal of a magnitude. -/
theorem isShortest_shortest (m : Magnitude) : m.shortest.IsShortest m := by
  obtain ⟨k, found, unfound⟩ := m.exists_found
  generalize m.shortest = d at found ⊢
  obtain ⟨nearest, exponent⟩ := Magnitude.decimalAt_eq_some found
  -- What stands for the magnitude at the power of ten of the shortest decimal is no nearer.
  have closest {c : Nat} (h : m.IsNearest (c * 10 ^ (m.decimalExponent - k))) :
      |d.toRat - m.toRat| ≤ |c * 10 ^ (m.decimalExponent - k) - m.toRat| := by
    obtain ⟨a, same, closer, -⟩ := Magnitude.decimalAt_closest h
    cases found.symm.trans same
    exact closer
  by_cases zero : m.place = 0
  · have number : d.toRat = 0 := by
      have close := closest (c := 0)
      rw [Nat.cast_zero, zero_mul, Magnitude.toRat_eq_zero zero, sub_zero, sub_zero, abs_zero,
        abs_nonpos_iff] at close
      exact close (Magnitude.isNearest_zero_iff.2 zero)
    refine ⟨nearest, fun _ _ => hasDigits_zero number _, fun _ _ => ?_⟩
    rw [Magnitude.toRat_eq_zero zero, number, sub_zero, abs_zero]
    exact abs_nonneg _
  · refine ⟨nearest, fun {d' n} stands digits => ?_, fun {d'} stands digits => ?_⟩
    · obtain ⟨c, e, small, number⟩ := digits
      rw [toMagnitude_eq_iff, number] at stands
      cases n with
      | zero =>
        -- Without digits there is only zero.
        obtain rfl : c = 0 := Nat.lt_one_iff.1 small
        rw [Nat.cast_zero, zero_mul] at stands
        exact absurd (Magnitude.isNearest_zero_iff.1 stands) zero
      | succ n =>
        obtain ⟨a, multiple, -⟩ := Magnitude.exists_multiple zero small stands
        obtain ⟨b, found', -⟩ := Magnitude.decimalAt_closest multiple
        have late : ¬ n < k := by
          intro less
          cases found'.symm.trans (unfound n less)
        exact (hasDigits_found zero found).mono (by omega)
    · obtain ⟨c, e, small, number⟩ := digits (k + 1) (hasDigits_found zero found)
      rw [toMagnitude_eq_iff, number] at stands
      obtain ⟨a, multiple, closer⟩ := Magnitude.exists_multiple zero small stands
      rw [number]
      exact (closest multiple).trans closer

end Decimal

end WorkflowExpr
