import Mathlib.Algebra.Group.Nat.Defs
import Mathlib.Data.Bool.AllAny
import Mathlib.Data.List.Basic
import Mathlib.Data.List.TakeWhile
import WorkflowExpr.Proofs.Text.Blank
import WorkflowExpr.Text.Digit

/-!
# Decimal digits

The ASCII digits among the digits of all scripts, the number that they denote, and where they end at the
front of a text.
-/

namespace WorkflowExpr

/-- The front of a text up to where a class of characters ends. -/
lemma takeWhile_front {p : Char → Bool} {front rest : List Char} (h : ∀ c ∈ front, p c = true)
    (hr : ∀ c ∈ rest.head?, p c = false) : (front ++ rest).takeWhile p = front := by
  have stops : rest.takeWhile p = [] := by
    cases rest with
    | nil => rfl
    | cons c rest => rw [List.takeWhile_cons_of_neg (by simp [hr c rfl])]
  rw [List.takeWhile_append_of_pos h, stops, List.append_nil]

/-- Of a text whose front has a property that the rest does not start with, the front is dropped. -/
lemma dropWhile_front {p : Char → Bool} {front rest : List Char} (h : ∀ c ∈ front, p c = true)
    (hr : ∀ c ∈ rest.head?, p c = false) : (front ++ rest).dropWhile p = rest := by
  rw [List.dropWhile_append_of_pos h]
  cases rest with
  | nil => rfl
  | cons c rest => rw [List.dropWhile_cons_of_neg (by simp [hr c rfl])]

/-- A text has a front of characters of a class, which ends where the text or the class does. -/
lemma exists_front (p : Char → Bool) (cs : List Char) :
    ∃ front rest, cs = front ++ rest ∧ (∀ c ∈ front, p c = true) ∧ ∀ c ∈ rest.head?, p c = false := by
  refine ⟨cs.takeWhile p, cs.dropWhile p, List.takeWhile_append_dropWhile.symm,
    List.all_eq_true.1 List.all_takeWhile, fun c hc => ?_⟩
  have stop := List.head?_dropWhile_not p cs
  rw [hc] at stop
  exact stop

namespace Text

variable {c : Char}

/-- The ASCII digits are ten code points in a row. -/
lemma range_ascii_digit (h : c.isDigit = true) : 48 ≤ c.toNat ∧ c.toNat < 58 := by
  have range : 48 ≤ c.toNat ∧ c.toNat ≤ 57 := Char.isDigit_iff_toNat.1 h
  omega

/-- An ASCII digit denotes its distance from zero. -/
lemma digit_ascii (h : c.isDigit = true) : digit? c = some (c.toNat - 48) := by
  rw [digit?, zeros, List.findSome?_cons, if_pos (range_ascii_digit h)]

/-- An ASCII digit is a digit. -/
lemma isDigit_ascii (h : c.isDigit = true) : isDigit c = true := by
  rw [isDigit, digit_ascii h]
  rfl

/-- No other ASCII character is a digit. -/
lemma not_isDigit_ascii (h : c.toNat < 128) (h' : c.isDigit = false) : isDigit c = false := by
  have range : ¬ (48 ≤ c.toNat ∧ c.toNat < 58) := by
    rintro ⟨low, high⟩
    have digit : c.isDigit = true := Char.isDigit_iff_toNat.2 ⟨low, Nat.le_of_lt_succ high⟩
    cases digit.symm.trans h'
  rw [isDigit, Option.isSome_eq_false_iff, Option.isNone_iff_eq_none, digit?,
    List.findSome?_eq_none_iff]
  intro z hz
  simp only [zeros, List.mem_cons, List.not_mem_nil, or_false] at hz
  exact if_neg (by omega)

/-- A visible ASCII character is no blank. -/
lemma not_isBlank_ascii (h : 33 ≤ c.toNat) (h' : c.toNat < 127) : isBlank c = false := by
  simp only [isBlank]
  grind

/-- An ASCII digit is not blank. -/
lemma isBlank_ascii_digit (h : c.isDigit = true) : isBlank c = false := by
  have range := range_ascii_digit h
  exact not_isBlank_ascii (by omega) (by omega)

/-- ASCII digits denote the number that they write in base ten. -/
lemma natOfDigits_ascii {cs : List Char} (h : ∀ c ∈ cs, c.isDigit = true) :
    natOfDigits cs = Nat.ofDigitChars 10 cs 0 := by
  have run (n : Nat) :
      cs.foldl (fun n c => 10 * n + (digit? c).getD 0) n = Nat.ofDigitChars 10 cs n := by
    induction cs generalizing n with
    | nil => rfl
    | cons c cs ih =>
      rw [List.foldl_cons, Nat.ofDigitChars_cons, digit_ascii (h c (List.mem_cons_self ..))]
      exact ih (fun d hd => h d (List.mem_cons_of_mem _ hd)) _
  exact run 0

/-- The digits of a natural are ASCII digits. -/
lemma isDigit_of_mem_toDigits {n : Nat} (h : c ∈ Nat.toDigits 10 n) : c.isDigit = true :=
  Nat.isDigit_of_mem_toDigits (by decide) (by decide) h

/-- Each zero behind digits multiplies by ten. -/
lemma foldl_zeros (k n : Nat) :
    (List.replicate k '0').foldl (fun n c => 10 * n + (digit? c).getD 0) n = n * 10 ^ k := by
  induction k generalizing n with
  | zero => rw [List.replicate_zero, List.foldl_nil, Nat.pow_zero, Nat.mul_one]
  | succ k ih =>
    have zero : 10 * n + (digit? '0').getD 0 = 10 * n := by
      rw [digit_ascii rfl]
      rfl
    rw [List.replicate_succ, List.foldl_cons, zero, ih, Nat.mul_comm 10, Nat.mul_assoc, Nat.pow_succ']

/-- Zeros in front do not count. -/
lemma natOfDigits_zeros_append (k : Nat) (ds : List Char) :
    natOfDigits (List.replicate k '0' ++ ds) = natOfDigits ds := by
  rw [natOfDigits, List.foldl_append, foldl_zeros, Nat.zero_mul, natOfDigits]

/-- Zeros at the front make no difference. -/
lemma natOfDigits_dropWhile_zero (ds : List Char) : natOfDigits (ds.dropWhile (· == '0')) = natOfDigits ds := by
  have zeros : ds.takeWhile (· == '0') = List.replicate (ds.takeWhile (· == '0')).length '0' :=
    List.eq_replicate_of_mem fun c hc => beq_iff_eq.1 (List.mem_takeWhile_imp (p := (· == '0')) hc)
  conv_rhs => rw [← List.takeWhile_append_dropWhile (p := (· == '0')) (l := ds), zeros]
  rw [natOfDigits_zeros_append]

/-- Zeros behind digits multiply by a power of ten. -/
lemma natOfDigits_append_zeros (k : Nat) (ds : List Char) :
    natOfDigits (ds ++ List.replicate k '0') = natOfDigits ds * 10 ^ k := by
  rw [natOfDigits, List.foldl_append, foldl_zeros, natOfDigits]

/-- Each further digit multiplies by ten at least. -/
lemma mul_pow_le_foldl (ds : List Char) (n : Nat) :
    n * 10 ^ ds.length ≤ ds.foldl (fun n c => 10 * n + (digit? c).getD 0) n := by
  induction ds generalizing n with
  | nil => exact (Nat.mul_one n).le
  | cons c ds ih =>
    calc n * 10 ^ (ds.length + 1)
      _ = 10 * n * 10 ^ ds.length := by rw [Nat.pow_succ', Nat.mul_left_comm, Nat.mul_assoc]
      _ ≤ (10 * n + (digit? c).getD 0) * 10 ^ ds.length := Nat.mul_le_mul_right _ (Nat.le_add_right ..)
      _ ≤ _ := ih _

/-- Digits of which the first is not zero denote no less than one followed by as many zeros. -/
lemma pow_le_natOfDigits {d : Nat} (digit : digit? c = some d) (nonzero : d ≠ 0) (ds : List Char) :
    10 ^ ds.length ≤ natOfDigits (c :: ds) := by
  have first : natOfDigits (c :: ds) = ds.foldl (fun n c => 10 * n + (digit? c).getD 0) d := by
    rw [natOfDigits, List.foldl_cons, digit, Option.getD_some, Nat.mul_zero, Nat.zero_add]
  calc 10 ^ ds.length
    _ ≤ d * 10 ^ ds.length := Nat.le_mul_of_pos_left _ (Nat.pos_of_ne_zero nonzero)
    _ ≤ natOfDigits (c :: ds) := first ▸ mul_pow_le_foldl ds d

/-- The digits of a natural denote it. -/
lemma natOfDigits_toDigits (n : Nat) : natOfDigits (Nat.toDigits 10 n) = n := by
  rw [natOfDigits_ascii fun c hc => isDigit_of_mem_toDigits hc, Nat.ofDigitChars_ten_toDigits]

/-- A positive natural has as many digits as its size tells. -/
lemma length_toDigits {n : Nat} (h : n ≠ 0) :
    ∃ l, (Nat.toDigits 10 n).length = l + 1 ∧ 10 ^ l ≤ n ∧ n < 10 ^ (l + 1) := by
  obtain ⟨l, length⟩ := Nat.exists_eq_add_one_of_ne_zero (Nat.length_toDigits_pos (b := 10) (n := n)).ne'
  refine ⟨l, length, ?_, (Nat.length_toDigits_le_iff (by decide) (Nat.succ_pos l)).1 length.le⟩
  cases l with
  | zero => exact Nat.pos_of_ne_zero h
  | succ l =>
    by_contra small
    have := (Nat.length_toDigits_le_iff (by decide) (Nat.succ_pos l)).2 (Nat.lt_of_not_le small)
    omega

/-- The digits of a positive natural do not start with a zero. -/
lemma head_toDigits {n : Nat} (h : n ≠ 0) : ∀ c ∈ (Nat.toDigits 10 n).head?, c ≠ '0' := by
  induction n using Nat.strongRecOn with
  | ind n ih =>
    rw [Nat.toDigits_eq_if (by decide)]
    split
    · next small =>
      have nonzero : ∀ n < 10, n ≠ 0 → Nat.digitChar n ≠ '0' := by decide
      rintro _ ⟨⟩
      exact nonzero n small h
    · next large =>
      rw [List.head?_append_of_ne_nil _ Nat.toDigits_ne_nil]
      exact ih (n / 10) (by omega) (by omega)

end Text

end WorkflowExpr
