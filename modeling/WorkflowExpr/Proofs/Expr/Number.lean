import WorkflowExpr.Proofs.Expr.Name
import WorkflowExpr.Proofs.Expr.Tiling
import WorkflowExpr.Proofs.Number.Form
import WorkflowExpr.Value.Coercion

/-!
# Number tokens

The numbers of the grammar and the forms of numerals are two classes of texts, and the first is part of the
second: a numeral may also have a plus, a point at either end and blanks around it. So every number token is
coerced to a number, and the literal that it is parsed to is that number.
-/

namespace WorkflowExpr

namespace Lexeme

variable {cs : List Char}

/-- A fraction behind digits writes digits with a point. -/
lemma IsFraction.writes {whole : List Char} (h : IsFraction cs) (run : Run Text.isDigit whole) :
    ∃ fraction, Numeral.WritesDigits whole fraction (whole ++ cs) := by
  cases h with
  | none =>
    rw [List.append_nil]
    exact ⟨[], .whole run.1 run.2⟩
  | some behind => exact ⟨_, .pointed (.inl run.1) run.2 behind.2⟩

/-- An exponent writes a power. -/
lemma IsExponent.writes (h : IsExponent cs) : ∃ e, Numeral.WritesPower e cs := by
  cases h with
  | none => exact ⟨0, .none⟩
  | some letter hs run =>
    rcases hs with rfl | rfl | rfl
    · exact ⟨_, .some letter .plus run.1 run.2⟩
    · exact ⟨_, .some letter .minus run.1 run.2⟩
    · exact ⟨_, .some letter .none run.1 run.2⟩

/-- A number without sign writes a numeral, with a sign in front or none. -/
lemma IsUnsigned.writes {negative : Bool} {sign : List Char} (h : IsUnsigned cs)
    (hs : Numeral.WritesSign negative sign) : ∃ n : Numeral, n.Writes (sign ++ cs) := by
  cases h with
  | @decimal whole _ _ run point power =>
    obtain ⟨fraction, digits⟩ := point.writes run
    obtain ⟨e, exponent⟩ := power.writes
    rw [← List.append_assoc whole]
    exact ⟨_, .decimal hs (.mk digits exponent)⟩
  | hexadecimal letter run => exact ⟨_, .hexadecimal hs (.mk letter run.1 run.2)⟩

/-- A number of the grammar is of one of the forms of numerals. -/
theorem IsNumber.writes (h : IsNumber cs) : ∃ n : Numeral, n.Writes cs := by
  cases h with
  | positive h => exact h.writes .none
  | negative h => exact h.writes .minus

/-- A number has no blanks to trim. -/
lemma IsNumber.trim (h : IsNumber cs) : Text.trim cs = cs :=
  Text.trim_eq_self (fun c hc => (h.firm c (List.mem_of_head? hc)).1)
    fun c hc => (h.firm c (List.mem_of_getLast? hc)).1

/-- A number of the grammar stands for the double of the numeral that it writes. -/
lemma IsNumber.exists_numeral (h : IsNumber cs) :
    ∃ n : Numeral, n.Writes cs ∧ Numeral.read? (Text.trim cs) = some n ∧
      Double.ofText cs = n.toDouble := by
  obtain ⟨n, writes⟩ := h.writes
  have trimmed : n.Writes (Text.trim cs) := h.trim.symm ▸ writes
  exact ⟨n, writes, Numeral.read_eq_some_iff.2 trimmed, Double.ofText_numeral trimmed⟩

/-- A number stands for a number. -/
lemma IsNumber.not_isNaN (h : IsNumber cs) : (Double.ofText cs).isNaN = false := by
  obtain ⟨n, -, -, value⟩ := h.exists_numeral
  rw [value]
  exact n.isNaN_toDouble

end Lexeme

open Lexeme

/-- The text of a number token is a number. -/
lemma isNumber_token {source : List Char} {t : Token} (ht : t ∈ (scan source).tokens)
    (number : t.terminal = .number) : IsNumber t.chars := by
  obtain ⟨front, -, cut⟩ := exists_cut 0 source
  have first := cut.first t ht
  rw [number] at first
  cases matches_first first with
  | number h => exact h

/-- A number is scanned as one token. -/
lemma scan_number {cs : List Char} (h : IsNumber cs) : scan cs = ⟨[⟨.number, cs, 0⟩], none⟩ := by
  have first := @scanFrom_first 0 cs [] .number (first_number h .nil)
  rwa [List.append_nil, scanFrom_nil] at first

/-- A number by itself is parsed to the double that it stands for. -/
lemma parse_number {text : String} (h : IsNumber text.toList) (limit : Int) :
    parse text limit = .ok ⟨text, .literal (.real (Double.ofText text.toList))⟩ := by
  have bare : (unwrap text.toList).1 = text.toList := by
    rw [unwrap_eq_self (fun c hc => h.firm c (List.mem_of_head? hc))
      fun c hc => (h.firm c (List.mem_of_getLast? hc)).1]
  have derived : Derives .primary [(Token.mk .number text.toList 0).listed]
      (.literal (.real (Double.ofText text.toList))) := by
    have number := @Derives.number (Token.mk .number text.toList 0).listed rfl
    rwa [Token.text_listed, Token.text, String.toList_ofList] at number
  rw [parse_eq_ok_iff, bare, String.ofList_toList, parseSource_eq_ok_iff, scan_number h,
    List.map_singleton]
  exact ⟨rfl, ⟨rfl, .toOr (.accessPass derived)⟩, rfl⟩

/-- The texts of number tokens are the numbers of the grammar. Such a text is read in one of the two forms of
numerals, and the number that it is coerced to is the literal that it is parsed to; so every number in a
parsed expression is one to which such a text is coerced. Any text is coerced to a double, which is no number
exactly if something is left of the text when it is trimmed that is of neither form. -/
theorem number_coercion :
    (∀ text : String, (∃ source, ∃ t ∈ (scan source).tokens, t.terminal = .number ∧ t.text = text) ↔
      IsNumber text.toList) ∧
    (∀ text : String, IsNumber text.toList →
      ∃ n : Numeral, n.Writes text.toList ∧ Numeral.read? (Text.trim text.toList) = some n ∧
        (Value.string text).toNumber = .ok n.toDouble ∧ n.toDouble.isNaN = false ∧
        ∀ limit, parse text limit = .ok ⟨text, .literal (.real n.toDouble)⟩) ∧
    (∀ text limit parsed, parse text limit = .ok parsed →
      ∀ v, .literal v ∈ parsed.root.nodes → v.isNumber = true →
        ∃ number x, IsNumber number.toList ∧ (Value.string number).toNumber = .ok x ∧
          x.isNaN = false ∧ v = .real x) ∧
    ∀ text : String, ∃ x, (Value.string text).toNumber = .ok x ∧
      (x.isNaN = true ↔
        Text.trim text.toList ≠ [] ∧ ∀ n : Numeral, ¬ n.Writes (Text.trim text.toList)) := by
  refine ⟨fun text => ⟨?_, fun h => ?_⟩, fun text h => ?_, fun text limit parsed hp => ?_, fun text => ?_⟩
  · rintro ⟨source, t, ht, number, rfl⟩
    rw [Token.text, String.toList_ofList]
    exact isNumber_token ht number
  · refine ⟨text.toList, ⟨.number, text.toList, 0⟩, ?_, rfl, String.ofList_toList⟩
    rw [scan_number h]
    exact List.mem_singleton_self _
  · obtain ⟨n, writes, read, value⟩ := h.exists_numeral
    refine ⟨n, writes, read, congrArg Except.ok value, n.isNaN_toDouble, fun limit => ?_⟩
    rw [← value]
    exact parse_number h limit
  -- Of the literals that a text is read into, only doubles are numbers.
  · have other {v : Value} {P : Prop} (h : v.isNumber = false) (number : v.isNumber = true) : P := by
      cases h.symm.trans number
    refine parse_literals hp (other rfl) (fun _ => other rfl) (fun _ => other rfl) fun t ht number _ => ?_
    have spelt := isNumber_token ht number
    refine ⟨t.text, Double.ofText t.chars, ?_, ?_, spelt.not_isNaN, rfl⟩
    · rwa [Token.text, String.toList_ofList]
    · rw [Value.toNumber, Token.text, String.toList_ofList]
  · exact ⟨_, rfl, Double.isNaN_ofText_iff⟩

/-- A number in the digits of another script with a fraction and an exponent, and a hexadecimal number
without digits. -/
theorem number_coercion_digits :
    IsNumber "-\u0663.\u0665e+\u0662".toList ∧
      (Value.string "-\u0663.\u0665e+\u0662").toNumber = .ok (.ofInt (-350)) ∧
      parse "-\u0663.\u0665e+\u0662" 1 =
        .ok ⟨"-\u0663.\u0665e+\u0662", .literal (.real (.ofInt (-350)))⟩ ∧
      (Double.ofInt (-350)).isNaN = false ∧
      ∃ x, (Value.string " 0x ").toNumber = .ok x ∧ x.isNaN = true := by
  obtain ⟨-, forms, literals, texts⟩ := number_coercion
  have digit : Run Text.isDigit ['\u0663'] ∧ Run Text.isDigit ['\u0665'] ∧ Run Text.isDigit ['\u0662'] := by
    simp only [Run, List.mem_singleton, forall_eq]
    decide
  have spelt : IsNumber "-\u0663.\u0665e+\u0662".toList :=
    .negative (.decimal digit.1 (.some digit.2.1) (.some (.inl rfl) (.inl rfl) digit.2.2))
  obtain ⟨n, -, read, value, -, parsed⟩ := forms _ spelt
  have numeral : Numeral.read? (Text.trim "-\u0663.\u0665e+\u0662".toList) = some (.decimal true ⟨35, 1⟩) := by
    decide +kernel
  obtain rfl : Numeral.decimal true ⟨35, 1⟩ = n := Option.some.inj (numeral.symm.trans read)
  have double : (Numeral.decimal true ⟨35, 1⟩).toDouble = .ofInt (-350) := by decide +kernel
  rw [double] at value parsed
  refine ⟨spelt, value, parsed 1, ?_, ?_⟩
  · obtain ⟨-, x, -, -, number, e⟩ :=
      literals _ 1 _ (parsed 1) (.real (.ofInt (-350))) (List.mem_singleton_self _) rfl
    cases e
    exact number
  · obtain ⟨x, value, iff⟩ := texts " 0x "
    refine ⟨x, value, iff.2 ⟨by decide, fun n writes => ?_⟩⟩
    have unread : Numeral.read? (Text.trim " 0x ".toList) = none := by decide
    cases unread.symm.trans (Numeral.read_eq_some_iff.2 writes)

end WorkflowExpr
