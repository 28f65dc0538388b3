import WorkflowExpr.Proofs.Number.Integer
import WorkflowExpr.Proofs.Number.Shortest
import WorkflowExpr.Value.Plain

/-!
# The texts of numbers

A number has one text as a value and one as JSON. For a finite number the two are the same, and that text
stands for the number again, except that zero loses its sign. Unless it shows all digits of an integer, it
is the shortest decimal that does.
-/

namespace WorkflowExpr

namespace Double

variable {x : Double}

/-- Whether as JSON or not, a plain integer is written with all its digits. -/
lemma text_plain (h : x.isFinite = true) (plain : x.isPlainInteger = true) :
    x.text = toString x.truncate ∧ x.toJson.compact = toString x.truncate := by
  cases x with
  | nan => cases h
  | signed negative m =>
    have finite : m.isFinite = true := h
    rw [text, toJson, h, finite, plain]
    exact ⟨rfl, rfl⟩

/-- Whether as JSON or not, any other finite number is written with the fewest digits. -/
lemma text_fewest (h : x.isFinite = true) (other : x.isPlainInteger = false) :
    x.text = x.shortestText ∧ x.toJson.compact = x.shortestText := by
  cases x with
  | nan => cases h
  | signed negative m =>
    have finite : m.isFinite = true := h
    rw [text, toJson, h, finite, other]
    exact ⟨rfl, if_pos finite⟩

/-- A finite number has one text, as a value and as JSON. -/
theorem compact_toJson (h : x.isFinite = true) : x.toJson.compact = x.text := by
  cases plain : x.isPlainInteger with
  | true =>
    obtain ⟨text, json⟩ := text_plain h plain
    rw [text, json]
  | false =>
    obtain ⟨text, json⟩ := text_fewest h plain
    rw [text, json]

/-- The text of a finite number that does not show all its digits is the shortest decimal that stands for
it, behind a minus if the number has one. -/
theorem exists_text (h : x.isFinite = true) (other : x.isPlainInteger = false) :
    ∃ n : WrittenDecimal, n.chars = x.text.toList ∧ ∃ m, x = .signed n.negative m ∧ n.value.IsShortest m := by
  obtain ⟨n, chars, -, shortest⟩ := WrittenDecimal.exists_shortestText h
  rw [(text_fewest h other).1]
  exact ⟨n, chars, shortest⟩

/-- The text of a finite number stands for that number, but for zero if it is the negative one. -/
theorem ofText_text (h : x.isFinite = true) :
    ofText x.text.toList = x ∨ x = .signed true .zero ∧ ofText x.text.toList = .zero := by
  cases plain : x.isPlainInteger with
  | true =>
    obtain ⟨n, chars, value⟩ := WrittenDecimal.exists_integer x.truncate
    rw [(text_plain h plain).1, ← chars, value]
    exact ofInt_truncate (isIntegral_of_plain plain)
  | false =>
    obtain ⟨n, chars, m, parts, shortest⟩ := exists_text h plain
    rw [← chars, n.ofText_chars, shortest.nearest]
    exact .inl parts.symm

end Double

namespace Value

variable {v : Value} {x : Double}

/-- The texts of a number are those of its double. -/
lemma texts_number (number : v.isNumber = true) (value : v.toNumber = .ok x) :
    v.toText = .ok x.text ∧ v.toJsonText = .ok x.toJson.compact := by
  cases v with
  | integer n =>
    cases value
    rw [toText, integerText_eq_text]
    exact ⟨rfl, rfl⟩
  | real y =>
    cases value
    exact ⟨rfl, rfl⟩
  | _ => cases number

/-- The text of a number that is finite as a double is its JSON text too, and it stands for that double
again, but for zero if that is the negative one. -/
theorem toJsonText_eq_toText (number : v.isNumber = true) (value : v.toNumber = .ok x)
    (finite : x.isFinite = true) :
    ∃ text, v.toText = .ok text ∧ v.toJsonText = .ok text ∧
      ∃ y, (Value.string text).toNumber = .ok y ∧ (y = x ∨ x = .signed true .zero ∧ y = .zero) := by
  obtain ⟨text, json⟩ := texts_number number value
  rw [Double.compact_toJson finite] at json
  exact ⟨x.text, text, json, Double.ofText x.text.toList, rfl, Double.ofText_text finite⟩

/-- The integer of the host from which on exponents are written. -/
theorem toJsonText_eq_toText_exponent :
    (integer 1000000000000000000000).isNumber = true ∧
      (integer 1000000000000000000000).toNumber = .ok (.ofInt 1000000000000000000000) ∧
      (Double.ofInt 1000000000000000000000).isFinite = true ∧
      (integer 1000000000000000000000).toText = .ok "1e+21" ∧
      (integer 1000000000000000000000).toJsonText = .ok "1e+21" ∧
      (Value.string "1e+21").toNumber = .ok (.ofInt 1000000000000000000000) := by
  have finite : (Double.ofInt 1000000000000000000000).isFinite = true := by decide +kernel
  have exponent : (integer 1000000000000000000000).toText = .ok "1e+21" := by decide +kernel
  obtain ⟨text, plain, json, y, value, same⟩ :=
    toJsonText_eq_toText (v := integer 1000000000000000000000) rfl rfl finite
  cases plain.symm.trans exponent
  refine ⟨rfl, rfl, finite, exponent, json, ?_⟩
  rcases same with rfl | ⟨zero, -⟩
  · exact value
  · exact absurd zero (by decide +kernel)

end Value

end WorkflowExpr
