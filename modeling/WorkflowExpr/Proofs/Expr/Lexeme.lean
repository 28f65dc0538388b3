import WorkflowExpr.Proofs.Expr.Name
import WorkflowExpr.Proofs.Text.Digit

/-!
# Spelling tokens

What is scanned where a known lexeme stands: a name that ends there, the digits of a natural in
brackets, and the symbols around them.
-/

namespace WorkflowExpr

namespace Lexeme

/-- A word that no further character of a name follows is scanned as a whole. -/
lemma first_word {c : Char} {cs rest : List Char} (hc : isNameStart c = true)
    (hcs : ∀ d ∈ cs, isNameChar d = true) (hr : ∀ d ∈ rest.head?, isNameChar d = false) :
    first? (c :: cs ++ rest) = some (wordTerminal (c :: cs), c :: cs) := by
  have word : identifier? (c :: cs ++ rest) = some (c :: cs) := by
    rw [List.cons_append, identifier?, if_pos hc, takeWhile_front hcs hr]
  rw [first?, word]

/-- A name that no further character of a name follows is scanned as an identifier. -/
lemma first_name {s : String} {rest : List Char} (h : IsName s)
    (hr : ∀ c ∈ rest.head?, isNameChar c = false) :
    first? (s.toList ++ rest) = some (.identifier, s.toList) := by
  obtain ⟨⟨c, cs, hs, hc, hcs⟩, hk⟩ := h
  rw [hs] at hk ⊢
  rw [first_word hc hcs hr, hk]

/-- The ASCII letters lie between two code points. -/
lemma range_ascii_letter {c : Char} (h : c.isAlpha = true) : 65 ≤ c.toNat ∧ c.toNat ≤ 122 := by
  rcases Bool.or_eq_true_iff.1 h with upper | lower
  · have bounds : 'A' ≤ c ∧ c ≤ 'Z' := of_decide_eq_true upper
    have low : 65 ≤ c.toNat := UInt32.le_iff_toNat_le.1 bounds.1
    have high : c.toNat ≤ 90 := UInt32.le_iff_toNat_le.1 bounds.2
    omega
  · have bounds := Bool.and_eq_true_iff.1 lower
    have low : 97 ≤ c.toNat := UInt32.le_iff_toNat_le.1 (of_decide_eq_true bounds.1)
    have high : c.toNat ≤ 122 := UInt32.le_iff_toNat_le.1 (of_decide_eq_true bounds.2)
    omega

/-- No character of a name is blank. -/
lemma isBlank_nameChar {c : Char} (h : isNameChar c = true) : Text.isBlank c = false := by
  have range : 45 ≤ c.toNat ∧ c.toNat ≤ 122 := by
    simp only [isNameChar, Bool.or_eq_true, beq_iff_eq] at h
    rcases h with ((h | h) | rfl) | rfl
    · have := range_ascii_letter h
      omega
    · have := Text.range_ascii_digit h
      omega
    · decide
    · decide
  exact Text.not_isBlank_ascii (by omega) (by omega)

/-- No name starts with a digit. -/
lemma isNameStart_digit {c : Char} (h : c.isDigit = true) : isNameStart c = false := by
  have range := Text.range_ascii_digit h
  have alpha : c.isAlpha = false := by
    rw [Bool.eq_false_iff]
    intro letter
    have := range_ascii_letter letter
    omega
  have underscore : (c == '_') = false := by
    rw [beq_eq_false_iff_ne]
    rintro rfl
    cases h
  rw [isNameStart, alpha, underscore]
  rfl

/-- Digits in front of a closing bracket are no hexadecimal number. -/
lemma hexadecimal_digits {ds rest : List Char} (h : ∀ c ∈ ds, c.isDigit = true) :
    hexadecimal? (ds ++ ']' :: rest) = none := by
  unfold hexadecimal?
  split
  · next x tail e =>
    have second : x ≠ 'x' ∧ x ≠ 'X' := by
      -- What follows the first digit is the bracket or a further digit.
      match ds, h, e with
      | [_], _, e =>
        cases e
        decide
      | _ :: d :: ds, h, e =>
        obtain rfl : d = x := by
          cases e
          rfl
        have digit := h d (by simp)
        constructor
        · rintro rfl
          cases digit
        · rintro rfl
          cases digit
    exact if_neg fun both => both.1.elim second.1 second.2
  · rfl

/-- The digits of a natural in front of a closing bracket are scanned as a number. -/
lemma first_toDigits (n : Nat) (rest : List Char) :
    first? (Nat.toDigits 10 n ++ ']' :: rest) = some (.number, Nat.toDigits 10 n) := by
  have digits : ∀ c ∈ Nat.toDigits 10 n, c.isDigit = true :=
    fun c hc => Text.isDigit_of_mem_toDigits hc
  obtain ⟨d, ds, e⟩ := List.exists_cons_of_ne_nil (Nat.toDigits_ne_nil (n := n) (b := 10))
  have digit : d.isDigit = true := digits d (by simp [e])
  have word : identifier? (Nat.toDigits 10 n ++ ']' :: rest) = none := by
    rw [e, List.cons_append, identifier?, if_neg (by simp [isNameStart_digit digit])]
  -- The bracket ends the digits, and starts neither a fraction nor a power.
  have whole : (Nat.toDigits 10 n ++ ']' :: rest).takeWhile Text.isDigit = Nat.toDigits 10 n := by
    refine takeWhile_front (fun c hc => Text.isDigit_ascii (digits c hc)) ?_
    intro c hc
    obtain rfl : ']' = c := Option.some.inj hc
    exact Text.not_isDigit_ascii (by decide) rfl
  have decimal : decimal? (Nat.toDigits 10 n ++ ']' :: rest) = some (Nat.toDigits 10 n) := by
    have point : fraction (']' :: rest) = [] := rfl
    have power : exponent (']' :: rest) = [] := rfl
    simp only [decimal?, whole, if_neg Nat.toDigits_ne_nil, List.drop_left, point, List.append_nil,
      power]
  have number : number? (Nat.toDigits 10 n ++ ']' :: rest) = some (Nat.toDigits 10 n) := by
    unfold number?
    split
    · next h =>
      rw [e] at h
      cases h
      cases digit
    · rw [unsigned?, hexadecimal_digits digits, decimal, Option.none_or]
  rw [first?, word]
  simp only [number]

/-- A number starts with a digit or a minus. -/
lemma number_none {c : Char} {cs : List Char} (hd : Text.isDigit c = false) (hm : c ≠ '-') :
    number? (c :: cs) = none := by
  have hexadecimal : hexadecimal? (c :: cs) = none := by
    unfold hexadecimal?
    split
    · next e =>
      cases e
      have zero : Text.isDigit '0' = true := Text.isDigit_ascii rfl
      cases hd.symm.trans zero
    · rfl
  have decimal : decimal? (c :: cs) = none := by
    rw [decimal?, List.takeWhile_cons_of_neg (by simp [hd])]
    rfl
  unfold number?
  split
  · next e =>
    cases e
    exact absurd rfl hm
  · rw [unsigned?, hexadecimal, decimal, Option.none_or]

/-- An ASCII character that starts neither a name nor a number nor a string literal is scanned as a
symbol. -/
lemma first_symbol {c : Char} {cs : List Char} (ascii : c.toNat < 128)
    (h : (isNameStart c || c.isDigit || c == '-' || isQuote c) = false) :
    first? (c :: cs) = symbol? (c :: cs) := by
  simp only [Bool.or_eq_false_iff, beq_eq_false_iff_ne] at h
  obtain ⟨⟨⟨start, digit⟩, minus⟩, quote⟩ := h
  have word : identifier? (c :: cs) = none := by
    rw [identifier?, if_neg (by simp [start])]
  have number : number? (c :: cs) = none :=
    number_none (Text.not_isDigit_ascii ascii digit) minus
  have literal : string? false (c :: cs) = none := by
    rw [string?, if_neg (by simp [quote])]
  simp only [first?, word, number, literal]

/-- No lexeme starts with a space. -/
lemma first_space {c : Char} {cs : List Char} (h : isSpace c = true) : first? (c :: cs) = none := by
  simp only [isSpace, Bool.or_eq_true, beq_iff_eq] at h
  rcases h with (((rfl | rfl) | rfl) | rfl) | rfl
  all_goals
    rw [first_symbol (by decide) (by decide)]
    rfl

end Lexeme

/-- A scan takes the lexeme that a text starts with and goes on behind it. -/
lemma scanFrom_first {position : Nat} {chars rest : List Char} {k : Terminal}
    (h : Lexeme.first? (chars ++ rest) = some (k, chars)) :
    scanFrom position (chars ++ rest) =
      ⟨⟨k, chars, position⟩ :: (scanFrom (position + chars.length) rest).tokens,
        (scanFrom (position + chars.length) rest).stuck⟩ := by
  obtain ⟨c, cs, rfl⟩ := List.exists_cons_of_ne_nil (Lexeme.first_ne_nil h)
  have space : Lexeme.isSpace c = false := by
    rw [Bool.eq_false_iff]
    intro hs
    rw [List.cons_append, Lexeme.first_space hs] at h
    cases h
  rw [List.cons_append] at h ⊢
  rw [scanFrom_token space h, ← List.cons_append, List.drop_left]

/-- A text in front of another one is scanned into tokens. -/
def Scans (position : Nat) (cs : List Char) (ts : List Token) (rest : List Char) : Prop :=
  scanFrom position (cs ++ rest) =
    ⟨ts ++ (scanFrom (position + cs.length) rest).tokens,
      (scanFrom (position + cs.length) rest).stuck⟩

/-- Texts that are scanned one behind the other are scanned as one. -/
lemma Scans.append {position : Nat} {cs ds rest : List Char} {ts us : List Token}
    (h : Scans position cs ts (ds ++ rest)) (h' : Scans (position + cs.length) ds us rest) :
    Scans position (cs ++ ds) (ts ++ us) rest := by
  rw [Scans] at h h' ⊢
  rw [List.append_assoc, h, h', List.append_assoc, List.length_append, Nat.add_assoc]

/-- A lexeme is scanned as one token. -/
lemma Scans.first {position : Nat} {chars rest : List Char} {k : Terminal}
    (h : Lexeme.first? (chars ++ rest) = some (k, chars)) :
    Scans position chars [⟨k, chars, position⟩] rest :=
  scanFrom_first h

/-- A point and a name are scanned as such, unless a further character of a name follows. -/
lemma Scans.member {position : Nat} {name : String} {rest : List Char} (h : IsName name)
    (hr : ∀ c ∈ rest.head?, Lexeme.isNameChar c = false) :
    Scans position ('.' :: name.toList)
      [⟨.dot, ['.'], position⟩, ⟨.identifier, name.toList, position + 1⟩] rest := by
  have dot : Lexeme.first? (['.'] ++ (name.toList ++ rest)) = some (.dot, ['.']) :=
    Lexeme.first_symbol (by decide) (by decide)
  exact (Scans.first dot).append (Scans.first (Lexeme.first_name h hr))

/-- A point and a star are scanned as such. -/
lemma Scans.dotStar {position : Nat} {rest : List Char} :
    Scans position ['.', '*'] [⟨.dot, ['.'], position⟩, ⟨.star, ['*'], position + 1⟩] rest := by
  have dot : Lexeme.first? (['.'] ++ (['*'] ++ rest)) = some (.dot, ['.']) :=
    Lexeme.first_symbol (by decide) (by decide)
  have star : Lexeme.first? (['*'] ++ rest) = some (.star, ['*']) :=
    Lexeme.first_symbol (by decide) (by decide)
  exact (Scans.first dot).append (Scans.first star)

/-- An index in brackets is scanned as such. -/
lemma Scans.brackets {position n : Nat} {rest : List Char} :
    Scans position ('[' :: Nat.toDigits 10 n ++ [']'])
      [⟨.openBracket, ['['], position⟩, ⟨.number, Nat.toDigits 10 n, position + 1⟩,
        ⟨.closeBracket, [']'], position + 1 + (Nat.toDigits 10 n).length⟩] rest := by
  have opened : Lexeme.first? (['['] ++ (Nat.toDigits 10 n ++ [']'] ++ rest)) =
      some (.openBracket, ['[']) :=
    Lexeme.first_symbol (by decide) (by decide)
  have digits : Lexeme.first? (Nat.toDigits 10 n ++ ([']'] ++ rest)) =
      some (.number, Nat.toDigits 10 n) := Lexeme.first_toDigits n rest
  have closed : Lexeme.first? ([']'] ++ rest) = some (.closeBracket, [']']) :=
    Lexeme.first_symbol (by decide) (by decide)
  exact (Scans.first opened).append ((Scans.first digits).append (Scans.first closed))

end WorkflowExpr
