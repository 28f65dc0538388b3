import WorkflowExpr.Number.Text
import WorkflowExpr.Proofs.Number.Rounding
import WorkflowExpr.Value.Coercion

/-!
# Integers among the doubles

An integer below 2^53 is exactly a double, so that its own digits are the text of that double. A double
that is an integer is the double nearest to its integer part, up to the sign of zero.
-/

namespace WorkflowExpr

namespace Magnitude

variable {n : Nat}

/-- A natural below 2^53 is an exact number of steps. -/
lemma exact_natural (h : n < 2 ^ 53) : Exact (n * one) := by
  have small : (n * one).log2 < 53 + 1074 := by
    by_cases zero : n * one = 0
    · rw [zero, Nat.log2_zero]
      decide
    · obtain ⟨k, hk, e⟩ := one_eq
      rw [Nat.log2_lt zero, e, ← hk, Nat.pow_add]
      exact Nat.mul_lt_mul_of_pos_right h (Nat.two_pow_pos k)
  exact ⟨Nat.dvd_mul_left_of_dvd (pow_dvd_one (by omega)) n, by omega⟩

/-- A natural below 2^53 has a magnitude of its own. -/
lemma nearest_natural (h : n < 2 ^ 53) :
    (nearest n 1).steps = n * one ∧ (nearest n 1).isFinite = true :=
  nearest_exact Nat.one_pos (Nat.one_mul _).symm (exact_natural h)

/-- The magnitude of a natural below 2^53 has it as integer part. -/
lemma floor_natural (h : n < 2 ^ 53) : (nearest n 1).floor = n := by
  rw [floor, (nearest_natural h).1, Nat.mul_div_cancel _ one_pos]

end Magnitude

namespace Double

variable {n : Int}

/-- The double of an integer below 2^53 has it as integer part. -/
lemma truncate_ofInt (h : n.natAbs < 2 ^ 53) : (ofInt n).truncate = n := by
  rw [ofInt]
  by_cases negative : n < 0
  · rw [decide_eq_true negative, truncate, Magnitude.floor_natural h]
    omega
  · rw [decide_eq_false negative, truncate, Magnitude.floor_natural h]
    omega

/-- The double of an integer below 2^53 is written with all its digits. -/
lemma isPlainInteger_ofInt (h : n.natAbs < 2 ^ 53) : (ofInt n).isPlainInteger = true := by
  obtain ⟨steps, finite⟩ := Magnitude.nearest_natural h
  have below : n.natAbs * Magnitude.one < Nat.pow 10 21 * Magnitude.one :=
    Nat.mul_lt_mul_of_pos_right (Nat.lt_trans h (by decide)) Magnitude.one_pos
  simp only [ofInt, isPlainInteger, Magnitude.isIntegral, steps, finite, Nat.mul_mod_left,
    Bool.and_eq_true, decide_eq_true_eq, beq_self_eq_true, true_and]
  exact below

/-- What is written with all its digits is integral. -/
lemma isIntegral_of_plain {x : Double} (h : x.isPlainInteger = true) : x.isIntegral = true := by
  cases x with
  | nan => cases h
  | signed negative m => exact (Bool.and_eq_true_iff.1 h).1

/-- The double of an integer below 2^53 is written as the integer is. -/
lemma text_ofInt (h : n.natAbs < 2 ^ 53) : (ofInt n).text = toString n := by
  obtain ⟨-, finite⟩ := Magnitude.nearest_natural h
  have plain := isPlainInteger_ofInt h
  have truncate := truncate_ofInt h
  rw [ofInt] at plain truncate ⊢
  rw [text]
  simp only [finite, plain, truncate, Bool.not_true, if_true]
  rfl

/-- Doubles of one magnitude are equal if their signs are, or if both are zero. -/
lemma equals_signed {b b' : Bool} {m : Magnitude} (h : b = b' ∨ m = .zero) :
    (signed b m).equals (signed b' m) = true := by
  rcases h with rfl | rfl
  · cases b with
    | _ => simp [equals, rank?]
  · cases b with
    | _ => cases b' with
      | _ => rfl

/-- Equal doubles differ in the sign of zero at most. -/
lemma exists_of_equals {x y : Double} (h : x.equals y = true) :
    ∃ b b' m, x = signed b m ∧ y = signed b' m ∧ (b = b' ∨ m = .zero) := by
  cases x with
  | nan => cases h
  | signed b m =>
    cases y with
    | nan => cases b with
      | _ => cases h
    | signed b' m' =>
      have place : m.place = m'.place ∧ (b = b' ∨ m.place = 0) := by
        cases b with
        | _ =>
          cases b' with
          | _ =>
            simp only [equals, rank?, beq_iff_eq, reduceCtorEq, false_or, true_or, and_true] at h ⊢
            omega
      obtain rfl : m = m' := Magnitude.place_injective place.1
      exact ⟨b, b', m, rfl, rfl, place.2.imp_right Magnitude.place_injective⟩

/-- The integer part of an integer has its sign, except that of zero. -/
lemma truncate_sign {negative : Bool} {m : Magnitude} (h : m.isIntegral = true) :
    decide ((signed negative m).truncate < 0) = negative ∨ m = .zero := by
  cases negative with
  | false => exact .inl (decide_eq_false (Int.not_lt.2 (Int.natCast_nonneg _)))
  | true =>
    by_cases zero : m.floor = 0
    · refine .inr ?_
      rw [← Magnitude.nearest_floor h, zero]
      exact Magnitude.nearest_zero (by rw [Nat.zero_mul]; exact Nat.one_pos)
    · refine .inl (decide_eq_true ?_)
      rw [truncate]
      omega

/-- The double nearest to the integer part of an integer is that integer, but with a positive sign if it
is zero. -/
theorem ofInt_truncate {x : Double} (h : x.isIntegral = true) :
    ofInt x.truncate = x ∨ x = .signed true .zero ∧ ofInt x.truncate = .zero := by
  cases x with
  | nan => cases h
  | signed negative m =>
    have integral : m.isIntegral = true := h
    have abs : (signed negative m).truncate.natAbs = m.floor := by
      cases negative with
      | false => rfl
      | true => exact Int.natAbs_neg _
    rw [ofInt, abs, Magnitude.nearest_floor integral]
    rcases truncate_sign integral with sign | rfl
    · exact .inl (by rw [sign])
    · have steps : Magnitude.zero.steps = 0 := rfl
      have floor : Magnitude.zero.floor = 0 := by rw [Magnitude.floor, steps, Nat.zero_div]
      cases negative with
      | false => exact .inl (by rw [truncate, floor]; rfl)
      | true => exact .inr ⟨rfl, by rw [truncate, floor]; rfl⟩

/-- An integral double is equal to the double of its integer part. -/
theorem equals_ofInt_truncate {x : Double} (h : x.isIntegral = true) :
    x.equals (ofInt x.truncate) = true := by
  rcases ofInt_truncate h with same | ⟨rfl, zero⟩
  · rw [same]
    cases x with
    | nan => cases h
    | signed => exact equals_signed (.inl rfl)
  · rw [zero]
    exact equals_signed (.inr rfl)

end Double

/-- The text of a host integer is that of its double. -/
theorem Value.integerText_eq_text (n : Int) : integerText n = (Double.ofInt n).text := by
  rw [integerText]
  split
  · next small => exact (Double.text_ofInt small).symm
  · rfl

end WorkflowExpr
