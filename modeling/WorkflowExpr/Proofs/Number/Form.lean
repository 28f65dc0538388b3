import WorkflowExpr.Number.Numeral
import WorkflowExpr.Proofs.Text.Digit

/-!
# The forms of numerals

The two forms in which a number is written, said without the reader: a sign if any in front of decimal
digits with a point and an exponent if any, or in front of `0x` and hexadecimal digits. A text is read as a
numeral exactly if it writes that numeral. So a text stands for no number exactly if something is left of
it when it is trimmed that is of neither form.
-/

namespace WorkflowExpr

namespace Numeral

/-- A sign if any, and whether it is a minus. -/
inductive WritesSign : Bool → List Char → Prop where
  | none :
    WritesSign false []
  | plus :
    WritesSign false ['+']
  | minus :
    WritesSign true ['-']

/-- The digits before and behind a point, with one at least beside it, or digits without a point. -/
inductive WritesDigits : List Char → List Char → List Char → Prop where
  | whole {ds} :
    ds ≠ [] →
    (∀ c ∈ ds, Text.isDigit c = true) →
    WritesDigits ds [] ds
  | pointed {ds es} :
    ds ≠ [] ∨ es ≠ [] →
    (∀ c ∈ ds, Text.isDigit c = true) →
    (∀ c ∈ es, Text.isDigit c = true) →
    WritesDigits ds es (ds ++ '.' :: es)

/-- The power of ten: nothing, or a letter, a sign if any, and digits. -/
inductive WritesPower : Int → List Char → Prop where
  | none :
    WritesPower 0 []
  | some {e negative sign ds} :
    e = 'e' ∨ e = 'E' →
    WritesSign negative sign →
    ds ≠ [] →
    (∀ c ∈ ds, Text.isDigit c = true) →
    WritesPower (if negative then -(Text.natOfDigits ds : Int) else Text.natOfDigits ds)
      (e :: (sign ++ ds))

/-- The decimal form without its sign. -/
inductive WritesDecimal : Decimal → List Char → Prop where
  | mk {whole fraction body exponent power} :
    WritesDigits whole fraction body →
    WritesPower exponent power →
    WritesDecimal (ofParts whole fraction exponent) (body ++ power)

/-- The hexadecimal form without its sign. -/
inductive WritesHexadecimal : Nat → List Char → Prop where
  | mk {x ds} :
    x = 'x' ∨ x = 'X' →
    ds ≠ [] →
    (∀ c ∈ ds, Text.isHexDigit c = true) →
    WritesHexadecimal (Text.natOfHexDigits ds) ('0' :: x :: ds)

/-- A text writes a numeral in one of the two forms. -/
inductive Writes : Numeral → List Char → Prop where
  | decimal {negative sign value cs} :
    WritesSign negative sign →
    WritesDecimal value cs →
    Writes (.decimal negative value) (sign ++ cs)
  | hexadecimal {negative sign value cs} :
    WritesSign negative sign →
    WritesHexadecimal value cs →
    Writes (.hexadecimal negative value) (sign ++ cs)

section Reading

variable {cs rest : List Char} {negative : Bool}

/-- A digit is no sign. -/
lemma digit_ne_sign {c : Char} (h : Text.isDigit c = true) : c ≠ '-' ∧ c ≠ '+' := by
  constructor
  · rintro rfl
    exact absurd h (by decide)
  · rintro rfl
    exact absurd h (by decide)

/-- A sign is taken off a text that goes on without one. -/
lemma WritesSign.takeSign {sign : List Char} (h : WritesSign negative sign)
    (hr : ∀ c ∈ rest.head?, c ≠ '-' ∧ c ≠ '+') : takeSign (sign ++ rest) = (negative, rest) := by
  cases h with
  | none =>
    rw [List.nil_append]
    unfold Numeral.takeSign
    split
    · exact absurd rfl (hr _ rfl).1
    · exact absurd rfl (hr _ rfl).2
    · rfl
  | plus => rfl
  | minus => rfl

/-- The sign that is taken off a text is written in front of the rest. -/
lemma exists_sign (cs : List Char) :
    ∃ sign, WritesSign (takeSign cs).1 sign ∧ cs = sign ++ (takeSign cs).2 := by
  unfold takeSign
  split
  · exact ⟨_, .minus, rfl⟩
  · exact ⟨_, .plus, rfl⟩
  · exact ⟨_, .none, rfl⟩

/-- The power of ten is what is read as an exponent. -/
lemma exponent_eq_some_iff {e : Int} : exponent? cs = some e ↔ WritesPower e cs := by
  constructor
  · intro h
    unfold exponent? at h
    split at h
    · cases h
      exact .none
    · next letter tail =>
      split at h
      · next isLetter =>
        obtain ⟨sign, writes, parts⟩ := exists_sign tail
        generalize takeSign tail = signed at h writes parts
        dsimp only at h
        split at h
        · next digits =>
          cases h
          rw [parts]
          exact .some isLetter writes digits.1 (List.all_eq_true.1 digits.2)
        · cases h
      · cases h
  · intro h
    cases h with
    | none => rfl
    | @some e negative sign ds letter writes nonempty digits =>
      have signed : takeSign (sign ++ ds) = (negative, ds) :=
        writes.takeSign fun c hc => digit_ne_sign (digits c (List.mem_of_head? hc))
      have all : ds.all Text.isDigit = true := List.all_eq_true.2 digits
      simp only [exponent?, if_pos letter, signed]
      exact if_pos ⟨nonempty, all⟩

/-- A power of ten starts with neither a digit nor a point. -/
lemma WritesPower.head {e : Int} (h : WritesPower e cs) :
    ∀ c ∈ cs.head?, Text.isDigit c = false ∧ c ≠ '.' := by
  cases h with
  | none => nofun
  | some letter =>
    rintro _ ⟨⟩
    rcases letter with rfl | rfl
    · decide
    · decide

section Digits

variable {ds es : List Char}

/-- Digits without a point behind them are read with the power of ten that follows. -/
lemma decimal_whole (digits : ∀ c ∈ ds, Text.isDigit c = true)
    (hr : ∀ c ∈ rest.head?, Text.isDigit c = false ∧ c ≠ '.') :
    decimal? (ds ++ rest) = if ds = [] then none else (exponent? rest).map (ofParts ds []) := by
  have stop : ∀ c ∈ rest.head?, Text.isDigit c = false := fun c hc => (hr c hc).1
  rw [decimal?, takeWhile_front digits stop, dropWhile_front digits stop]
  split
  next parts =>
  split at parts
  · exact absurd rfl (hr '.' rfl).2
  · cases parts
    simp only [and_true]

/-- Digits with a point among them are read with the power of ten that follows. -/
lemma decimal_pointed (digits : ∀ c ∈ ds, Text.isDigit c = true)
    (digits' : ∀ c ∈ es, Text.isDigit c = true) (hr : ∀ c ∈ rest.head?, Text.isDigit c = false) :
    decimal? (ds ++ '.' :: (es ++ rest)) =
      if ds = [] ∧ es = [] then none else (exponent? rest).map (ofParts ds es) := by
  have point : ∀ c ∈ ('.' :: (es ++ rest)).head?, Text.isDigit c = false := by
    rintro _ ⟨⟩
    decide
  rw [decimal?, takeWhile_front digits point, dropWhile_front digits point]
  simp only [takeWhile_front digits' hr, dropWhile_front digits' hr]

end Digits

/-- The decimal form is what is read as a decimal. -/
lemma decimal_eq_some_iff {value : Decimal} : decimal? cs = some value ↔ WritesDecimal value cs := by
  constructor
  · intro h
    -- What stands behind the first digits tells the two shapes apart: a point or anything else.
    obtain ⟨ds, rest, rfl, digits, stop⟩ := exists_front Text.isDigit cs
    by_cases point : rest.head? = some '.'
    · obtain ⟨tail, rfl⟩ := List.head?_eq_some_iff.1 point
      obtain ⟨es, rest, rfl, digits', stop⟩ := exists_front Text.isDigit tail
      rw [decimal_pointed digits digits' stop] at h
      split at h
      · cases h
      · next nonempty =>
        obtain ⟨e, power, rfl⟩ := Option.map_eq_some_iff.1 h
        rw [← List.cons_append, ← List.append_assoc]
        exact .mk (.pointed (not_and_or.1 nonempty) digits digits') (exponent_eq_some_iff.1 power)
    · rw [decimal_whole digits fun c hc => ⟨stop c hc, fun e => point (e ▸ hc)⟩] at h
      split at h
      · cases h
      · next nonempty =>
        obtain ⟨e, power, rfl⟩ := Option.map_eq_some_iff.1 h
        exact .mk (.whole nonempty digits) (exponent_eq_some_iff.1 power)
  · intro h
    cases h with
    | mk writes power =>
      have exponent := exponent_eq_some_iff.2 power
      cases writes with
      | whole nonempty digits =>
        rw [decimal_whole digits power.head, if_neg nonempty, exponent, Option.map_some]
      | pointed nonempty digits digits' =>
        rw [List.append_assoc, List.cons_append,
          decimal_pointed digits digits' fun c hc => (power.head c hc).1,
          if_neg (not_and_or.2 nonempty), exponent, Option.map_some]

/-- A text is read in the hexadecimal form when it is of that form. -/
lemma hexadecimal_eq_some_iff {value : Nat} :
    hexadecimal? cs = some value ↔ WritesHexadecimal value cs := by
  constructor
  · intro h
    unfold hexadecimal? at h
    split at h
    · split at h
      · next form =>
        cases h
        exact .mk form.1 form.2.1 (List.all_eq_true.1 form.2.2)
      · cases h
    · cases h
  · intro h
    cases h with
    | mk letter nonempty digits =>
      rw [hexadecimal?]
      exact if_pos ⟨letter, nonempty, List.all_eq_true.2 digits⟩

/-- The letter behind the zero tells the hexadecimal form from the decimal one. -/
lemma WritesHexadecimal.decimal_none {value : Nat} (h : WritesHexadecimal value cs) :
    decimal? cs = none := by
  cases h with
  | @mk x ds letter =>
    have zero : ∀ c ∈ ['0'], Text.isDigit c = true := List.forall_mem_singleton.2 (by decide)
    have other : Text.isDigit x = false ∧ x ≠ '.' ∧ ¬ (x = 'e' ∨ x = 'E') := by
      rcases letter with rfl | rfl
      · decide
      · decide
    have stop : ∀ c ∈ (x :: ds).head?, Text.isDigit c = false ∧ c ≠ '.' := by
      rintro _ ⟨⟩
      exact ⟨other.1, other.2.1⟩
    have power : exponent? (x :: ds) = none := if_neg other.2.2
    rw [← List.singleton_append, decimal_whole zero stop, power]
    rfl

/-- The decimal form does not start with a sign. -/
lemma WritesDecimal.head {value : Decimal} (h : WritesDecimal value cs) :
    ∀ c ∈ cs.head?, c ≠ '-' ∧ c ≠ '+' := by
  cases h with
  | @mk whole _ _ _ _ writes =>
    cases writes with
    | whole nonempty digits =>
      rw [List.head?_append_of_ne_nil _ nonempty]
      exact fun c hc => digit_ne_sign (digits c (List.mem_of_head? hc))
    | pointed _ digits =>
      cases whole with
      | nil =>
        rintro _ ⟨⟩
        decide
      | cons d ds =>
        rintro _ ⟨⟩
        exact digit_ne_sign (digits _ (List.mem_cons_self ..))

/-- The hexadecimal form does not start with a sign. -/
lemma WritesHexadecimal.head {value : Nat} (h : WritesHexadecimal value cs) :
    ∀ c ∈ cs.head?, c ≠ '-' ∧ c ≠ '+' := by
  cases h with
  | mk =>
    rintro _ ⟨⟩
    decide

/-- A text is read as a numeral exactly if it writes it. -/
theorem read_eq_some_iff {n : Numeral} : read? cs = some n ↔ n.Writes cs := by
  constructor
  · intro h
    obtain ⟨sign, writes, parts⟩ := exists_sign cs
    rw [parts]
    unfold read? at h
    generalize takeSign cs = signed at h writes
    dsimp only at h
    split at h
    · next value decimal =>
      cases h
      exact .decimal writes (decimal_eq_some_iff.1 decimal)
    · obtain ⟨value, hexadecimal, rfl⟩ := Option.map_eq_some_iff.1 h
      exact .hexadecimal writes (hexadecimal_eq_some_iff.1 hexadecimal)
  · intro h
    cases h with
    | decimal sign writes =>
      rw [read?, sign.takeSign writes.head]
      simp only [decimal_eq_some_iff.2 writes]
    | hexadecimal sign writes =>
      rw [read?, sign.takeSign writes.head]
      simp only [writes.decimal_none, hexadecimal_eq_some_iff.2 writes, Option.map_some]

/-- An empty text writes no numeral. -/
lemma Writes.ne_nil {n : Numeral} (h : n.Writes cs) : cs ≠ [] := by
  rintro rfl
  have read := read_eq_some_iff.2 h
  cases read

/-- Every numeral has a double. -/
lemma isNaN_toDouble (n : Numeral) : n.toDouble.isNaN = false := by
  cases n with
  | decimal => rfl
  | hexadecimal => rfl

end Reading

end Numeral

namespace Double

variable {cs : List Char}

/-- A text that writes a numeral when it is trimmed stands for the double of that numeral. -/
theorem ofText_numeral {n : Numeral} (h : n.Writes (Text.trim cs)) : ofText cs = n.toDouble := by
  rw [ofText, Numeral.read_eq_some_iff.2 h]
  exact if_neg h.ne_nil

/-- A text stands for no number exactly if it is neither blank nor of one of the two forms. -/
theorem isNaN_ofText_iff :
    (ofText cs).isNaN = true ↔ Text.trim cs ≠ [] ∧ ∀ n : Numeral, ¬ n.Writes (Text.trim cs) := by
  by_cases form : ∃ n : Numeral, n.Writes (Text.trim cs)
  · obtain ⟨n, writes⟩ := form
    rw [ofText_numeral writes, n.isNaN_toDouble]
    exact ⟨nofun, fun h => absurd writes (h.2 n)⟩
  · have unread : Numeral.read? (Text.trim cs) = none := by
      cases read : Numeral.read? (Text.trim cs) with
      | none => rfl
      | some n => exact absurd ⟨n, Numeral.read_eq_some_iff.1 read⟩ form
    rw [ofText, unread]
    dsimp only
    split
    · next blank => exact ⟨nofun, fun h => absurd blank h.1⟩
    · next left => exact ⟨fun _ => ⟨left, fun n writes => form ⟨n, writes⟩⟩, fun _ => rfl⟩

end Double

end WorkflowExpr
