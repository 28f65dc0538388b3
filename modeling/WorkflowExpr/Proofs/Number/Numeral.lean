import WorkflowExpr.Proofs.Number.Form
import WorkflowExpr.Proofs.Number.Nearest

/-!
# Written decimals

A decimal as a host and a JSON document write it: an optional minus, a whole part without a needless
zero, an optional fraction and an optional exponent with its sign. Such a text is read as the number that
its parts write.
-/

namespace WorkflowExpr

/-- The parts of a written decimal. No digits behind the point mean that there is none. -/
structure WrittenDecimal where
  negative : Bool
  whole : List Char
  fraction : List Char
  exponent : Option (Bool × List Char)
  whole_ne_nil : whole ≠ []
  whole_digits : ∀ c ∈ whole, c.isDigit = true
  leading : whole = ['0'] ∨ ∀ c ∈ whole.head?, c ≠ '0'
  fraction_digits : ∀ c ∈ fraction, c.isDigit = true
  exponent_digits : ∀ e ∈ exponent, e.2 ≠ [] ∧ ∀ c ∈ e.2, c.isDigit = true

namespace WrittenDecimal

/-- The fraction with its point. -/
def pointed (n : WrittenDecimal) : List Char :=
  if n.fraction = [] then [] else '.' :: n.fraction

/-- The exponent with its letter and its sign. -/
def powered (n : WrittenDecimal) : List Char :=
  match n.exponent with
  | none => []
  | some (negative, digits) => 'e' :: (if negative then '-' else '+') :: digits

/-- The decimal without its sign. -/
def unsigned (n : WrittenDecimal) : List Char :=
  n.whole ++ (n.pointed ++ n.powered)

/-- The characters of the decimal. -/
def chars (n : WrittenDecimal) : List Char :=
  (if n.negative then ['-'] else []) ++ n.unsigned

/-- The power of ten that the exponent writes. -/
def power (n : WrittenDecimal) : Int :=
  match n.exponent with
  | none => 0
  | some (negative, digits) =>
    if negative then -(Text.natOfDigits digits : Int) else Text.natOfDigits digits

/-- The number that the decimal writes, without its sign. -/
def value (n : WrittenDecimal) : Decimal :=
  Numeral.ofParts n.whole n.fraction n.power

variable (n : WrittenDecimal)

/-- The whole part starts with a digit. -/
lemma exists_whole : ∃ c cs, n.whole = c :: cs ∧ c.isDigit = true := by
  obtain ⟨c, cs, e⟩ := List.exists_cons_of_ne_nil n.whole_ne_nil
  exact ⟨c, cs, e, n.whole_digits c (by simp [e])⟩

/-- The sign of a written decimal is of the form of a sign. -/
lemma writes_sign : Numeral.WritesSign n.negative (if n.negative then ['-'] else []) := by
  cases n.negative with
  | true => exact .minus
  | false => exact .none

/-- Whole part and fraction are of the form of digits with a point. -/
lemma writes_pointed : Numeral.WritesDigits n.whole n.fraction (n.whole ++ n.pointed) := by
  have digits : ∀ c ∈ n.whole, Text.isDigit c = true :=
    fun c hc => Text.isDigit_ascii (n.whole_digits c hc)
  have digits' : ∀ c ∈ n.fraction, Text.isDigit c = true :=
    fun c hc => Text.isDigit_ascii (n.fraction_digits c hc)
  rw [pointed]
  split
  · next none =>
    rw [none, List.append_nil]
    exact .whole n.whole_ne_nil digits
  · exact .pointed (.inl n.whole_ne_nil) digits digits'

/-- The exponent is of the form of a power. -/
lemma writes_powered : Numeral.WritesPower n.power n.powered := by
  have digits := n.exponent_digits
  rw [powered, power]
  cases he : n.exponent with
  | none => exact .none
  | some e =>
    obtain ⟨negative, ds⟩ := e
    obtain ⟨nonempty, all⟩ := digits _ he
    have all' : ∀ c ∈ ds, Text.isDigit c = true := fun c hc => Text.isDigit_ascii (all c hc)
    cases negative with
    | true => exact .some (.inl rfl) .minus nonempty all'
    | false => exact .some (.inl rfl) .plus nonempty all'

/-- A written decimal writes its value in the decimal form. -/
theorem writes_chars : (Numeral.decimal n.negative n.value).Writes n.chars := by
  have unsigned : Numeral.WritesDecimal n.value n.unsigned := by
    rw [unsigned, ← List.append_assoc]
    exact .mk n.writes_pointed n.writes_powered
  exact .decimal n.writes_sign unsigned

/-- A written decimal is made of ASCII digits, signs, the point and the letter of the exponent. -/
lemma mem_chars {c : Char} (h : c ∈ n.chars) : c.isDigit = true ∨ c ∈ ['-', '+', '.', 'e'] := by
  have power := n.exponent_digits
  simp only [chars, unsigned, List.mem_append] at h
  rcases h with sign | whole | fraction | exponent
  · split at sign
    · rw [List.mem_singleton.1 sign]
      simp
    · cases sign
  · exact .inl (n.whole_digits c whole)
  · rw [pointed] at fraction
    split at fraction
    · cases fraction
    · rcases List.mem_cons.1 fraction with rfl | digit
      · simp
      · exact .inl (n.fraction_digits c digit)
  · rw [powered] at exponent
    cases he : n.exponent with
    | none =>
      rw [he] at exponent
      cases exponent
    | some e =>
      obtain ⟨negative, digits⟩ := e
      rw [he] at exponent
      rcases List.mem_cons.1 exponent with rfl | exponent
      · simp
      · rcases List.mem_cons.1 exponent with rfl | digit
        · cases negative with
          | _ => simp
        · exact .inl ((power _ he).2 c digit)

/-- No character of a written decimal is blank. -/
lemma visible : ∀ c ∈ n.chars, Text.isBlank c = false := by
  intro c hc
  have sign : ∀ c ∈ ['-', '+', '.', 'e'], Text.isBlank c = false :=
    List.all_iff_forall_prop.1 (by decide)
  exact (n.mem_chars hc).elim Text.isBlank_ascii_digit (sign c)

/-- A written decimal is no empty text. -/
lemma chars_ne_nil : n.chars ≠ [] := by
  simp [chars, unsigned, n.whole_ne_nil]

/-- A written decimal is read as the magnitude nearest to its number. -/
theorem ofText_chars : Double.ofText n.chars = .signed n.negative n.value.toMagnitude := by
  have trimmed : Text.trim n.chars = n.chars :=
    Text.trim_eq_self (fun c hc => n.visible c (List.mem_of_head? hc))
      (fun c hc => n.visible c (List.mem_of_getLast? hc))
  exact Double.ofText_numeral (trimmed.symm ▸ n.writes_chars)

end WrittenDecimal

end WorkflowExpr
