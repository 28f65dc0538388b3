import WorkflowExpr.Number.Text
import WorkflowExpr.Proofs.Number.Fewest
import WorkflowExpr.Proofs.Number.Numeral

/-!
# The texts of doubles

The shortest text of a finite double is a written decimal, which is read as that double. So are the
digits of an integer, which are read as the double nearest to it.
-/

namespace WorkflowExpr

/-- The digits of an exponent are padded to two. -/
lemma exists_exponentText (e : Int) :
    ∃ ds, (ds ≠ [] ∧ ∀ c ∈ ds, c.isDigit = true) ∧ Text.natOfDigits ds = e.natAbs ∧
      (exponentText e).toList = 'e' :: (if decide (e < 0) then '-' else '+') :: ds := by
  have digits : ∀ c ∈ Nat.toDigits 10 e.natAbs, c.isDigit = true :=
    fun c hc => Text.isDigit_of_mem_toDigits hc
  have start : (if e < 0 then "e-" else "e+").toList = ['e', if decide (e < 0) then '-' else '+'] := by
    by_cases negative : e < 0
    · simp only [negative, if_true, decide_true]
      rfl
    · simp only [negative, if_false, decide_false]
      rfl
  rw [exponentText, String.toList_append, start, Nat.toString_eq_repr]
  by_cases short : e.natAbs.repr.length < 2
  · refine ⟨'0' :: Nat.toDigits 10 e.natAbs, ⟨nofun, List.forall_mem_cons.2 ⟨rfl, digits⟩⟩, ?_, ?_⟩
    · exact (Text.natOfDigits_zeros_append 1 _).trans (Text.natOfDigits_toDigits _)
    · rw [if_pos short, String.toList_append, Nat.toList_repr]
      rfl
  · refine ⟨Nat.toDigits 10 e.natAbs, ⟨Nat.toDigits_ne_nil, digits⟩, Text.natOfDigits_toDigits _, ?_⟩
    rw [if_neg short, Nat.toList_repr]
    rfl

namespace WrittenDecimal

/-- Digits with a point are a written decimal. -/
lemma exists_positional (negative : Bool) {whole fraction : List Char} (nonempty : whole ≠ [])
    (digits : ∀ c ∈ whole, c.isDigit = true) (leading : whole = ['0'] ∨ ∀ c ∈ whole.head?, c ≠ '0')
    (nonempty' : fraction ≠ []) (digits' : ∀ c ∈ fraction, c.isDigit = true) :
    ∃ n : WrittenDecimal, n.negative = negative ∧ n.unsigned = whole ++ '.' :: fraction ∧
      n.value = ⟨Text.natOfDigits (whole ++ fraction), -fraction.length⟩ := by
  refine ⟨⟨negative, whole, fraction, none, nonempty, digits, leading, digits', nofun⟩, rfl, ?_, ?_⟩
  · rw [unsigned, pointed, if_neg nonempty', powered, List.append_nil]
  · rw [value, Numeral.ofParts, power, Int.zero_sub]

/-- Digits with a power of ten are a written decimal. -/
lemma exists_scientific {d : Char} {rest : List Char} (negative : Bool) (e : Int)
    (digits : ∀ c ∈ d :: rest, c.isDigit = true) :
    ∃ n : WrittenDecimal, n.negative = negative ∧
      n.unsigned = d :: ((if rest = [] then [] else '.' :: rest) ++ (exponentText e).toList) ∧
      n.value = ⟨Text.natOfDigits (d :: rest), e - rest.length⟩ := by
  obtain ⟨ds, hds, number, text⟩ := exists_exponentText e
  obtain ⟨first, others⟩ := List.forall_mem_cons.1 digits
  have leading : [d] = ['0'] ∨ ∀ c ∈ [d].head?, c ≠ '0' := by
    by_cases zero : d = '0'
    · exact .inl (by rw [zero])
    · exact .inr (by rintro _ ⟨⟩; exact zero)
  refine ⟨⟨negative, [d], rest, some (decide (e < 0), ds), nofun, ?_, leading, others, ?_⟩, rfl, ?_, ?_⟩
  · exact List.forall_mem_singleton.2 first
  · rintro _ ⟨⟩
    exact hds
  · rw [unsigned, pointed, powered, text]
    rfl
  · rw [value, Numeral.ofParts, power]
    dsimp only
    rw [number, List.singleton_append]
    congr 2
    split
    · next negative =>
      have := of_decide_eq_true negative
      omega
    · next positive =>
      have := of_decide_eq_false (Bool.not_eq_true _ ▸ positive)
      omega

/-- Digits are written as a decimal whose first digit stands at the given power of ten. -/
lemma exists_digitsText (negative : Bool) (first : Int) {ds : List Char} (nonempty : ds ≠ [])
    (digits : ∀ c ∈ ds, c.isDigit = true)
    (leading : (ds = ['0'] ∧ first = 0) ∨ ∀ c ∈ ds.head?, c ≠ '0') :
    ∃ n : WrittenDecimal, n.negative = negative ∧ n.unsigned = (digitsText ds first).toList ∧
      n.value.toRat = Decimal.toRat ⟨Text.natOfDigits ds, first + 1 - ds.length⟩ := by
  have length : 0 < ds.length := List.length_pos_iff.2 nonempty
  have zeros (k : Nat) : ∀ c ∈ List.replicate k '0', c.isDigit = true := by
    intro c hc
    rw [List.eq_of_mem_replicate hc]
    rfl
  unfold digitsText
  split
  · next position =>
    split
    · next small =>
      -- A single zero stands in front of the point, the other zeros and the digits behind it.
      have behind : List.replicate (-first - 1).toNat '0' ++ ds ≠ [] := by
        simp [nonempty]
      obtain ⟨n, hn, text, value⟩ := exists_positional negative (List.cons_ne_nil '0' [])
        (List.forall_mem_singleton.2 rfl) (.inl rfl) behind (List.forall_mem_append.2 ⟨zeros _, digits⟩)
      refine ⟨n, hn, by rw [text]; simp, ?_⟩
      have number := Text.natOfDigits_zeros_append ((-first - 1).toNat + 1) ds
      rw [List.replicate_succ] at number
      rw [value, List.singleton_append, ← List.cons_append, number, List.length_append,
        List.length_replicate]
      congr 2
      omega
    · next large =>
      have whole : ((first.toNat + 1 : Nat) : Int) = first + 1 := by omega
      generalize first.toNat + 1 = w at whole
      dsimp only
      split
      · next short =>
        -- All digits stand in front of the point. Zeros fill the places up to it, and one is put behind it.
        have leading : ds ++ List.replicate (w - ds.length) '0' = ['0'] ∨
            ∀ c ∈ (ds ++ List.replicate (w - ds.length) '0').head?, c ≠ '0' := by
          rcases leading with ⟨rfl, rfl⟩ | head
          · obtain rfl : w = 1 := by omega
            exact .inl rfl
          · rw [List.head?_append_of_ne_nil _ nonempty]
            exact .inr head
        have front : ds ++ List.replicate (w - ds.length) '0' ≠ [] := by
          simp [nonempty]
        obtain ⟨n, hn, text, value⟩ := exists_positional negative front
          (List.forall_mem_append.2 ⟨digits, zeros _⟩) leading (List.cons_ne_nil '0' [])
          (List.forall_mem_singleton.2 rfl)
        refine ⟨n, hn, by rw [text]; simp, ?_⟩
        have number := Text.natOfDigits_append_zeros (w - ds.length + 1) ds
        rw [List.replicate_succ'] at number
        rw [value, List.append_assoc, number, Decimal.toRat_scale]
        congr 2
        rw [List.length_singleton]
        omega
      · next long =>
        -- The point stands among the digits.
        have leading : ds.take w = ['0'] ∨ ∀ c ∈ (ds.take w).head?, c ≠ '0' := by
          rcases leading with ⟨rfl, rfl⟩ | head
          · exact absurd (show 1 ≤ w by omega) long
          · rw [List.head?_take, if_neg (by omega)]
            exact .inr head
        have front : ds.take w ≠ [] := by
          simp only [Ne, List.take_eq_nil_iff, nonempty, or_false]
          omega
        have back : ds.drop w ≠ [] := by
          rw [Ne, List.drop_eq_nil_iff]
          exact long
        obtain ⟨n, hn, text, value⟩ := exists_positional negative front
          (fun c hc => digits c (List.mem_of_mem_take hc)) leading back
          (fun c hc => digits c (List.mem_of_mem_drop hc))
        refine ⟨n, hn, by rw [text]; simp, ?_⟩
        rw [value, List.take_append_drop, List.length_drop]
        congr 2
        omega
  · next =>
    -- In scientific form the point stands behind the first digit, if others follow.
    obtain ⟨d, rest, rfl⟩ := List.exists_cons_of_ne_nil nonempty
    obtain ⟨n, hn, text, value⟩ := exists_scientific negative first digits
    refine ⟨n, hn, ?_, ?_⟩
    · rw [text]
      cases rest with
      | nil => simp
      | cons r rest => simp
    · rw [value, List.length_cons]
      congr 2
      omega

/-- The digits of a decimal are its significant ones and zeros behind them. -/
lemma exists_zeros (d : Decimal) :
    ∃ k, d.digits = (d.digits.reverse.dropWhile (· == '0')).reverse ++ List.replicate k '0' := by
  have parts : d.digits = (d.digits.reverse.dropWhile (· == '0')).reverse ++
      (d.digits.reverse.takeWhile (· == '0')).reverse := by
    rw [← List.reverse_append, List.takeWhile_append_dropWhile, List.reverse_reverse]
  have zeros : ∀ c ∈ (d.digits.reverse.takeWhile (· == '0')).reverse, c = '0' := by
    intro c hc
    exact eq_of_beq (List.all_eq_true.1 List.all_takeWhile c (List.mem_reverse.1 hc))
  exact ⟨_, List.eq_replicate_of_mem zeros ▸ parts⟩

/-- The shortest text of a magnitude is a written decimal, whose value is its shortest decimal. -/
theorem exists_magnitudeText (m : Magnitude) (negative : Bool) :
    ∃ n : WrittenDecimal, n.negative = negative ∧ n.unsigned = m.shortestText.toList ∧
      n.value.IsShortest m := by
  have shortest := Decimal.isShortest_shortest m
  rw [Magnitude.shortestText]
  generalize m.shortest = d at shortest
  -- The text drops zeros at the end, so its decimal may have another power of ten, but no other value.
  suffices written : ∃ n : WrittenDecimal, n.negative = negative ∧ n.unsigned = _ ∧
      n.value.toRat = d.toRat by
    obtain ⟨n, hn, text, value⟩ := written
    exact ⟨n, hn, text, shortest.congr value⟩
  obtain ⟨c, e⟩ := d
  by_cases zero : c = 0
  · have significant : (Decimal.mk c e).digits = ['0'] := by
      rw [Decimal.digits, zero, Nat.toDigits_zero]
    obtain ⟨n, hn, text, value⟩ := exists_digitsText negative 0 (List.cons_ne_nil '0' [])
      (List.forall_mem_singleton.2 rfl) (.inl ⟨rfl, rfl⟩)
    refine ⟨n, hn, ?_, ?_⟩
    · rw [text, if_pos zero, significant]
      rfl
    · have number : Text.natOfDigits ['0'] = 0 := rfl
      rw [value, number, zero, Decimal.toRat, Decimal.toRat, Nat.cast_zero, zero_mul, zero_mul]
  · have number : Text.natOfDigits (Decimal.mk c e).digits = c := Text.natOfDigits_toDigits _
    have head : ∀ d ∈ (Decimal.mk c e).digits.head?, d ≠ '0' := Text.head_toDigits zero
    have digits : ∀ d ∈ (Decimal.mk c e).digits, d.isDigit = true :=
      fun d hd => Text.isDigit_of_mem_toDigits hd
    obtain ⟨k, parts⟩ := exists_zeros ⟨c, e⟩
    generalize ((Decimal.mk c e).digits.reverse.dropWhile (· == '0')).reverse = ds at parts
    rw [parts] at number head digits ⊢
    rw [Text.natOfDigits_append_zeros] at number
    -- Zeros alone would make the number zero.
    have nonempty : ds ≠ [] := by
      rintro rfl
      exact zero (by rw [← number]; exact Nat.zero_mul _)
    rw [List.head?_append_of_ne_nil _ nonempty] at head
    obtain ⟨n, hn, text, value⟩ := exists_digitsText negative
      (e + (ds ++ List.replicate k '0').length - 1) nonempty
      (fun d hd => digits d (List.mem_append_left _ hd)) (.inr head)
    refine ⟨n, hn, ?_, ?_⟩
    · rw [text, if_neg nonempty, if_neg zero]
    · rw [value, ← number, Decimal.toRat_scale, List.length_append, List.length_replicate]
      congr 2
      omega

/-- The shortest text of a finite double is a written decimal, which is read as that double. Its value is
the shortest decimal of the magnitude. -/
theorem exists_shortestText {x : Double} (h : x.isFinite = true) :
    ∃ n : WrittenDecimal, n.chars = x.shortestText.toList ∧ Double.ofText n.chars = x ∧
      ∃ m, x = .signed n.negative m ∧ n.value.IsShortest m := by
  cases x with
  | nan => cases h
  | signed negative m =>
    have finite : m.isFinite = true := h
    obtain ⟨n, hn, unsigned, shortest⟩ := exists_magnitudeText m negative
    refine ⟨n, ?_, ?_, m, by rw [hn], shortest⟩
    · rw [chars, unsigned, hn, Double.shortestText, if_pos finite, String.toList_append]
      cases negative with
      | _ => rfl
    · rw [ofText_chars, hn, shortest.nearest]

/-- The digits of an integer are a written decimal, which is read as the double nearest to it. -/
theorem exists_integer (i : Int) :
    ∃ n : WrittenDecimal, n.chars = (toString i).toList ∧ Double.ofText n.chars = .ofInt i := by
  have digits : ∀ c ∈ Nat.toDigits 10 i.natAbs, c.isDigit = true :=
    fun c hc => Text.isDigit_of_mem_toDigits hc
  have leading : Nat.toDigits 10 i.natAbs = ['0'] ∨ ∀ c ∈ (Nat.toDigits 10 i.natAbs).head?, c ≠ '0' := by
    by_cases zero : i.natAbs = 0
    · exact .inl (by rw [zero, Nat.toDigits_zero])
    · exact .inr (Text.head_toDigits zero)
  refine ⟨⟨decide (i < 0), Nat.toDigits 10 i.natAbs, [], none, Nat.toDigits_ne_nil, digits, leading,
    nofun, nofun⟩, ?_, ?_⟩
  · rw [chars, unsigned, pointed, powered, if_pos rfl, List.append_nil, Int.toString_eq_repr,
      Int.repr_eq_if]
    by_cases negative : i < 0
    · have abs : (-i).toNat = i.natAbs := by omega
      rw [if_neg (show ¬ 0 ≤ i by omega), abs, String.toList_append, Nat.toList_repr]
      simp [negative]
    · have abs : i.toNat = i.natAbs := by omega
      rw [if_pos (show 0 ≤ i by omega), abs, Nat.toList_repr]
      simp [negative]
  · rw [ofText_chars, value, Numeral.ofParts, power, List.append_nil, Text.natOfDigits_toDigits]
    exact congrArg (Double.signed _) (Decimal.toMagnitude_natural _)

end WrittenDecimal

namespace Double

/-- The digits of a natural are read as the magnitude nearest to it. -/
lemma ofText_toDigits (n : Nat) : ofText (Nat.toDigits 10 n) = .signed false (.nearest n 1) := by
  have text : (toString (n : Int)).toList = Nat.toDigits 10 n := Nat.toList_repr
  have positive : decide ((n : Int) < 0) = false := decide_eq_false (by omega)
  obtain ⟨w, chars, value⟩ := WrittenDecimal.exists_integer n
  rw [← text, ← chars, value, ofInt, positive, Int.natAbs_natCast]

/-- The digits of the integer part of a finite double are read as a finite double with that integer
part. -/
theorem ofText_floor {m : Magnitude} (h : m.isFinite = true) :
    (ofText (Nat.toDigits 10 m.floor)).isFinite = true ∧
      (ofText (Nat.toDigits 10 m.floor)).truncate = m.floor := by
  obtain ⟨floor, finite⟩ := Magnitude.floor_nearest_floor h
  rw [ofText_toDigits]
  exact ⟨finite, congrArg Int.ofNat floor⟩

end Double

end WorkflowExpr
