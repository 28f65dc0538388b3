import WorkflowExpr.Proofs.Expr.Spelling

/-!
# The longest token

The texts of each terminal are said without the scanner, one rule for each terminal. What the scanner
takes at the start of a text is such a text, and no terminal has a longer one there. What stands behind
some spacing further on does not count for it.
-/

namespace WorkflowExpr

open Lexeme

/-- The texts of the terminals. -/
inductive Terminal.Matches : Terminal → List Char → Prop where
  | identifier {c cs} :
    isNameStart c = true →
    (∀ d ∈ cs, isNameChar d = true) →
    Matches .identifier (c :: cs)
  | number {cs} :
    IsNumber cs →
    Matches .number cs
  | string {cs} :
    IsString cs →
    Matches .string cs
  | trueWord :
    Matches .trueWord "true".toList
  | falseWord :
    Matches .falseWord "false".toList
  | nullWord :
    Matches .nullWord "null".toList
  | operator {op} :
    Matches (.operator op) op.symbol.toList
  | not :
    Matches .not ['!']
  | dot :
    Matches .dot ['.']
  | star :
    Matches .star ['*']
  | comma :
    Matches .comma [',']
  | openParen :
    Matches .openParen ['(']
  | closeParen :
    Matches .closeParen [')']
  | openBracket :
    Matches .openBracket ['[']
  | closeBracket :
    Matches .closeBracket [']']

namespace Lexeme

section Scanned

variable {cs l : List Char} {k : Terminal}

/-- What is taken while a property holds is a run, unless it is empty. -/
lemma run_takeWhile {p : Char → Bool} (h : cs.takeWhile p ≠ []) : Run p (cs.takeWhile p) :=
  ⟨h, List.all_eq_true.1 List.all_takeWhile⟩

/-- What is taken as a fraction is one. -/
lemma isFraction_fraction (cs : List Char) : IsFraction (fraction cs) := by
  unfold fraction
  split
  · dsimp only
    split
    · exact .none
    · next digits => exact .some (run_takeWhile digits)
  · exact .none

/-- What is taken as an exponent is one. -/
lemma isExponent_exponent (cs : List Char) : IsExponent (exponent cs) := by
  unfold exponent
  split
  · next e rest =>
    split
    · next letter =>
      have signed {sign : List Char} (hs : sign = ['+'] ∨ sign = ['-'] ∨ sign = []) :
          IsExponent (if (rest.drop sign.length).takeWhile Text.isDigit = [] then []
            else e :: sign ++ (rest.drop sign.length).takeWhile Text.isDigit) := by
        split
        · exact .none
        · next digits => exact .some letter hs (run_takeWhile digits)
      dsimp only
      split
      · exact signed (.inl rfl)
      · exact signed (.inr (.inl rfl))
      · exact signed (.inr (.inr rfl))
    · exact .none
  · exact .none

/-- A hexadecimal number is a zero, an x and a run of digits. -/
lemma hexadecimal_eq_some (h : hexadecimal? cs = some l) :
    ∃ x ds, (x = 'x' ∨ x = 'X') ∧ Run Text.isHexDigit ds ∧ l = '0' :: x :: ds := by
  unfold hexadecimal? at h
  split at h
  · dsimp only at h
    split at h
    · next hx =>
      cases h
      exact ⟨_, _, hx.1, run_takeWhile hx.2, rfl⟩
    · cases h
  · cases h

/-- What is taken as a number without sign is one. -/
lemma isUnsigned_unsigned (h : unsigned? cs = some l) : IsUnsigned l := by
  unfold unsigned? at h
  rcases Option.or_eq_some_iff.1 h with h | ⟨-, h⟩
  · obtain ⟨x, ds, letter, run, rfl⟩ := hexadecimal_eq_some h
    exact .hexadecimal letter run
  · unfold decimal? at h
    dsimp only at h
    split at h
    · cases h
    · next digits =>
      cases h
      rw [List.append_assoc]
      exact .decimal (run_takeWhile digits) (isFraction_fraction _) (isExponent_exponent _)

/-- What is taken as a number is one. -/
lemma isNumber_number (h : number? cs = some l) : IsNumber l := by
  unfold number? at h
  split at h
  · obtain ⟨digits, hd, rfl⟩ := Option.map_eq_some_iff.1 h
    exact .negative (isUnsigned_unsigned hd)
  · exact .positive (isUnsigned_unsigned h)

/-- What is taken behind a quote is the rest of a string literal. -/
lemma quoted_afterQuote {q : Char} {body : List Char} (h : afterQuote? false q cs = some body) :
    Quoted q body := by
  fun_induction afterQuote? false q cs generalizing body with
  | case1 => cases h
  | case2 => cases h
  | case3 => cases h
  | case4 c rest line ih =>
    obtain ⟨inner, hi, rfl⟩ := Option.map_eq_some_iff.1 h
    exact .escape (fun e => line ⟨e, rfl⟩) (ih hi)
  | case5 =>
    cases h
    exact .quote
  | case6 c rest alone escaping other ih =>
    obtain ⟨inner, hi, rfl⟩ := Option.map_eq_some_iff.1 h
    exact .plain other (ne_backslash alone escaping) (ih hi)

/-- What is taken as a string literal is one. -/
lemma isString_string (h : string? false cs = some l) : IsString l := by
  obtain ⟨q, rest, body, -, hq, hb, rfl⟩ := string_eq_some h
  rcases quote_cases hq with rfl | rfl
  · exact .single (quoted_afterQuote hb)
  · exact .double (quoted_afterQuote hb)

/-- A scanned symbol is scanned again if nothing follows it. -/
lemma symbol_self (h : symbol? cs = some (k, l)) : symbol? l = some (k, l) := by
  unfold symbol? at h
  split at h
  all_goals
    cases h
  all_goals
    rfl

/-- A token is a word, a number, a string literal or a symbol. -/
lemma first_cases (h : first? cs = some (k, l)) :
    (∃ c ds, l = c :: ds ∧ isNameStart c = true ∧ (∀ d ∈ ds, isNameChar d = true) ∧
      k = wordTerminal (c :: ds)) ∨
    (k = .number ∧ IsNumber l) ∨
    (k = .string ∧ IsString l) ∨
    symbol? l = some (k, l) := by
  unfold first? at h
  split at h
  · next word hw =>
    cases h
    unfold identifier? at hw
    split at hw
    · split at hw
      · next hc =>
        cases hw
        exact .inl ⟨_, _, rfl, hc, List.all_eq_true.1 List.all_takeWhile, rfl⟩
      · cases hw
    · cases hw
  · split at h
    · next hn =>
      cases h
      exact .inr (.inl ⟨rfl, isNumber_number hn⟩)
    · split at h
      · next hs =>
        cases h
        exact .inr (.inr (.inl ⟨rfl, isString_string hs⟩))
      · exact .inr (.inr (.inr (symbol_self h)))

/-- What is taken as a symbol is a text of its terminal. -/
lemma matches_symbol (h : symbol? cs = some (k, l)) : k.Matches l := by
  unfold symbol? at h
  split at h
  all_goals
    cases h
  all_goals first
    | exact .operator
    | constructor

/-- A word is a text of its terminal. -/
lemma matches_word {c : Char} {ds : List Char} (hc : isNameStart c = true)
    (hd : ∀ d ∈ ds, isNameChar d = true) : (wordTerminal (c :: ds)).Matches (c :: ds) := by
  unfold wordTerminal
  split
  · next e =>
    rw [e]
    exact .trueWord
  · split
    · next e =>
      rw [e]
      exact .falseWord
    · split
      · next e =>
        rw [e]
        exact .nullWord
      · exact .identifier hc hd

/-- What is scanned at the start of a text is a text of its terminal. -/
lemma matches_first (h : first? cs = some (k, l)) : k.Matches l := by
  rcases first_cases h with ⟨c, ds, rfl, hc, hd, rfl⟩ | ⟨rfl, number⟩ | ⟨rfl, literal⟩ | symbol
  · exact matches_word hc hd
  · exact .number number
  · exact .string literal
  · exact matches_symbol symbol

/-- A token is scanned again in front of spacing. -/
lemma first_ends (h : first? cs = some (k, l)) {rest : List Char} (hr : Ends rest) :
    first? (l ++ rest) = some (k, l) := by
  rcases first_cases h with ⟨c, ds, rfl, hc, hd, rfl⟩ | ⟨rfl, number⟩ | ⟨rfl, literal⟩ | symbol
  · exact first_word hc hd (hr.head (by decide))
  · exact first_number number hr
  · exact first_string literal rest
  · exact first_symbol_append symbol hr

/-- Only string literals hold spacing. -/
lemma first_firm (h : first? cs = some (k, l)) : IsString l ∨ ∀ c ∈ l, Firm c := by
  rcases first_cases h with ⟨c, ds, rfl, hc, hd, rfl⟩ | ⟨rfl, number⟩ | ⟨rfl, literal⟩ | symbol
  · refine .inr (List.forall_mem_cons.2 ⟨firm_nameChar (isNameChar_of_start hc), fun d h => ?_⟩)
    exact firm_nameChar (hd d h)
  · exact .inr number.firm
  · exact .inl literal
  · exact .inr (symbol_firm symbol)

end Scanned

section Greedy

variable {cs l : List Char} {k : Terminal} (rest : List Char)

/-- Where a text starts with a run, no less than that is taken. -/
lemma length_le_takeWhile {p : Char → Bool} (h : ∀ c ∈ l, p c = true) :
    l.length ≤ ((l ++ rest).takeWhile p).length := by
  rw [List.takeWhile_append_of_pos h, List.length_append]
  exact Nat.le_add_right ..

/-- Where a text starts with a fraction, no less than that is taken. -/
lemma IsFraction.length_le (h : IsFraction l) : l.length ≤ (fraction (l ++ rest)).length := by
  cases h with
  | none => exact Nat.zero_le _
  | some run =>
    rw [List.cons_append, fraction_point run, List.length_cons, List.length_cons]
    exact Nat.succ_le_succ (length_le_takeWhile rest run.2)

/-- Where a text starts with an exponent, no less than that is taken. -/
lemma IsExponent.length_le (h : IsExponent l) : l.length ≤ (exponent (l ++ rest)).length := by
  cases h with
  | none => exact Nat.zero_le _
  | some letter hs run =>
    rw [List.cons_append, List.append_assoc, exponent_letter letter hs run, List.length_cons,
      List.length_cons, List.length_append, List.length_append]
    have longer := length_le_takeWhile rest run.2
    omega

/-- A decimal number at the start of a text is no longer than the one that is scanned there. -/
lemma exists_decimal {whole point power : List Char} (run : Run Text.isDigit whole)
    (hf : IsFraction point) (he : IsExponent power) :
    ∃ l, decimal? (whole ++ (point ++ (power ++ rest))) = some l ∧
      (whole ++ (point ++ power)).length ≤ l.length := by
  have after : point ++ power = [] ∨
      ∀ c ∈ (point ++ (power ++ rest)).head?, Text.isDigit c = false := by
    rcases hf.head_append (P := fun c => Text.isDigit c = false) (by decide) (power ++ rest) with
      rfl | first
    · exact he.head_append (P := fun c => Text.isDigit c = false) (by decide) rest
    · exact .inr first
  rcases after with none | digits
  · -- The number is no more than its digits, of which the text may have further ones.
    obtain ⟨rfl, rfl⟩ := List.append_eq_nil_iff.1 none
    rw [decimal?, if_neg (run.takeWhile_ne_nil _)]
    refine ⟨_, rfl, ?_⟩
    have longer := length_le_takeWhile rest run.2
    simp only [List.nil_append, List.append_nil, List.length_append]
    omega
  · refine ⟨_, decimal_digits run digits, ?_⟩
    rw [List.length_append, List.length_append, List.length_append, List.length_append]
    refine Nat.add_le_add_left ?_ _
    rcases he.head_append (P := fun c => Text.isDigit c = false ∧ c ≠ '.') (by decide) rest with
      rfl | letter
    · exact Nat.add_le_add (hf.length_le rest) (Nat.zero_le _)
    · rw [hf.fraction_append letter, List.drop_left]
      exact Nat.add_le_add_left (he.length_le rest) _

/-- Where a text starts with a number without sign, no less than that is taken. -/
lemma IsUnsigned.exists_unsigned (h : IsUnsigned l) :
    ∃ l', unsigned? (l ++ rest) = some l' ∧ l.length ≤ l'.length := by
  cases h with
  | @decimal whole point power run hf he =>
    obtain ⟨d, hd, longer⟩ := exists_decimal rest run hf he
    rw [List.append_assoc, List.append_assoc, unsigned?, hd]
    cases hx : hexadecimal? (whole ++ (point ++ (power ++ rest))) with
    | none => exact ⟨d, rfl, longer⟩
    | some x =>
      refine ⟨x, rfl, ?_⟩
      rcases hexadecimal_decimal run hf he rest with ⟨c, single⟩ | none
      · rw [single]
        obtain ⟨_, _, -, -, rfl⟩ := hexadecimal_eq_some hx
        exact Nat.succ_le_succ (Nat.zero_le _)
      · cases hx.symm.trans none
  | @hexadecimal x ds letter run =>
    have whole : hexadecimal? ('0' :: x :: (ds ++ rest)) =
        some ('0' :: x :: (ds ++ rest).takeWhile Text.isHexDigit) := by
      rw [hexadecimal?]
      exact if_pos ⟨letter, run.takeWhile_ne_nil rest⟩
    rw [List.cons_append, List.cons_append, unsigned?, whole, Option.some_or]
    refine ⟨_, rfl, ?_⟩
    have longer := length_le_takeWhile rest run.2
    simp only [List.length_cons]
    omega

/-- Where a text starts with a number, no less than that is taken. -/
lemma IsNumber.exists_number (h : IsNumber l) :
    ∃ l', number? (l ++ rest) = some l' ∧ l.length ≤ l'.length := by
  cases h with
  | positive h =>
    rw [h.number_eq rest]
    exact h.exists_unsigned rest
  | negative h =>
    obtain ⟨l', hl, longer⟩ := h.exists_unsigned rest
    rw [List.cons_append, number?, hl, Option.map_some]
    exact ⟨_, rfl, Nat.succ_le_succ longer⟩

/-- Where a text starts with a symbol, no less than that is taken. -/
lemma exists_symbol (h : symbol? l = some (k, l)) :
    ∃ k' l', symbol? (l ++ rest) = some (k', l') ∧ l.length ≤ l'.length := by
  unfold symbol? at h
  split at h
  all_goals
    cases h
  all_goals first
    | exact ⟨_, _, rfl, Nat.le_refl _⟩
    | -- The text may go on to a longer symbol.
      rcases em (∃ ds, rest = '=' :: ds) with ⟨ds, rfl⟩ | other
      · exact ⟨_, _, rfl, by decide⟩
      · rw [List.singleton_append, symbol?]
        · exact ⟨_, _, rfl, Nat.le_refl _⟩
        · exact fun ds e => other ⟨ds, e⟩

end Greedy

section Maximal

variable {cs l l' rest : List Char} {k k' : Terminal}

/-- What stands at the start of a text for a terminal is no longer than what is scanned there. -/
lemma exists_first (h : k.Matches l) (rest : List Char) :
    ∃ k' l', first? (l ++ rest) = some (k', l') ∧ l.length ≤ l'.length := by
  have word {c : Char} {cs : List Char} (hc : isNameStart c = true)
      (hcs : ∀ d ∈ cs, isNameChar d = true) :
      ∃ k' l', first? (c :: cs ++ rest) = some (k', l') ∧ (c :: cs).length ≤ l'.length := by
    rw [List.cons_append, first?, identifier?, if_pos hc]
    exact ⟨_, _, rfl, Nat.succ_le_succ (length_le_takeWhile rest hcs)⟩
  have symbol {k l} (h : symbol? l = some (k, l)) :
      ∃ k' l', first? (l ++ rest) = some (k', l') ∧ l.length ≤ l'.length := by
    rw [first_symbol_eq h]
    exact exists_symbol rest h
  cases h with
  | identifier hc hcs => exact word hc hcs
  | number h =>
    obtain ⟨l', hl, longer⟩ := h.exists_number rest
    rw [first?, h.identifier_none rest]
    simp only [hl]
    exact ⟨_, _, rfl, longer⟩
  | string h => exact ⟨_, _, first_string h rest, Nat.le_refl _⟩
  | trueWord => exact word (c := 't') rfl (List.all_eq_true.1 rfl)
  | falseWord => exact word (c := 'f') rfl (List.all_eq_true.1 rfl)
  | nullWord => exact word (c := 'n') rfl (List.all_eq_true.1 rfl)
  | @operator op => exact symbol (symbol_operator op)
  | _ => exact symbol rfl

/-- No terminal has a longer text than the scanned one where that stands. -/
lemma first_longest (h : first? cs = some (k, l)) (h' : k'.Matches l') (front : l' <+: cs) :
    l'.length ≤ l.length := by
  obtain ⟨rest, rfl⟩ := front
  obtain ⟨k'', l'', first, longer⟩ := exists_first h' rest
  cases h.symm.trans first
  exact longer

/-- Where nothing is scanned, no terminal has a text. -/
lemma first_none (h : first? cs = none) (h' : k'.Matches l') : ¬ l' <+: cs := by
  rintro ⟨rest, rfl⟩
  obtain ⟨k'', l'', first, -⟩ := exists_first h' rest
  cases h.symm.trans first

/-- What stands behind some spacing further on does not count for a token. -/
lemma first_cut {front back : List Char} (h : first? (l ++ (front ++ back)) = some (k, l))
    (hr : Ends rest) : first? (l ++ (front ++ rest)) = some (k, l) := by
  rcases first_front h with quiet | literal
  · obtain ⟨k', l', first, longer⟩ := exists_first (matches_first h) (front ++ rest)
    have whole := first_prefix first
    -- The token there starts with the same character, and so it is no string literal either.
    have firm : ∀ c ∈ l', Firm c := by
      rcases first_firm first with literal | firm
      · obtain ⟨c, ds, rfl⟩ := List.exists_cons_of_ne_nil (first_ne_nil h)
        have hc := quiet.quiet c (List.mem_cons_self ..)
        cases literal with
        | _ =>
          cases (List.cons_prefix_cons.1 whole).1
          cases hc
      · exact firm
    -- It ends in front of the spacing, and so it stands at the start of the first text as well.
    have inside : l' <+: l ++ front := by
      rw [← List.append_assoc] at whole
      rcases Nat.lt_or_ge (l ++ front).length l'.length with beyond | within
      · obtain ⟨ds, rfl⟩ :=
          List.prefix_of_prefix_length_le (List.prefix_append _ rest) whole beyond.le
        cases ds with
        | nil => exact ⟨[], by rw [List.append_nil, List.append_nil]⟩
        | cons d ds =>
          obtain ⟨es, rfl⟩ := (List.prefix_append_right_inj _).1 whole
          cases (isBlank_space (hr d rfl)).symm.trans (firm d (by simp)).1
      · exact List.prefix_of_prefix_length_le whole (List.prefix_append ..) within
    have same : l' = l := by
      have both : l' <+: l ++ (front ++ back) := by
        rw [← List.append_assoc]
        exact inside.trans (List.prefix_append ..)
      have shorter := first_longest h (matches_first first) both
      exact (List.prefix_of_prefix_length_le both (List.prefix_append ..) shorter).eq_of_length
        (Nat.le_antisymm shorter longer)
    rw [same] at first
    cases (first_ends h .nil).symm.trans (first_ends first .nil)
    exact first
  · have literal := isString_string literal
    cases (first_string literal (front ++ back)).symm.trans h
    exact first_string literal _

end Maximal

end Lexeme

end WorkflowExpr
