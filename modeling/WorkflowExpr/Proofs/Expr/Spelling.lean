import WorkflowExpr.Proofs.Expr.Extent

/-!
# Spellings of literals

Which texts are a string literal or a number of an expression, said without the scanner: quotes around
plain characters and escapes, and a sign with decimal or hexadecimal digits. A text of such a class with
spacing or nothing behind it is scanned as one token.
-/

namespace WorkflowExpr.Lexeme

/-- What stands behind a token ends it: spacing, or the end of the text. -/
def Ends (rest : List Char) : Prop :=
  ∀ c ∈ rest.head?, isSpace c = true

/-- The end of the text ends a token. -/
lemma Ends.nil : Ends [] :=
  nofun

/-- A space ends a token. -/
lemma Ends.space (rest : List Char) : Ends (' ' :: rest) := by
  rintro _ ⟨⟩
  rfl

/-- What is true of each of the five is true of spacing. -/
lemma of_isSpace {P : Char → Prop} {c : Char} (h : isSpace c = true)
    (hp : P ' ' ∧ P '\t' ∧ P '\x0c' ∧ P '\r' ∧ P '\n') : P c := by
  simp only [isSpace, Bool.or_eq_true, beq_iff_eq, or_assoc] at h
  rcases h with rfl | rfl | rfl | rfl | rfl
  · exact hp.1
  · exact hp.2.1
  · exact hp.2.2.1
  · exact hp.2.2.2.1
  · exact hp.2.2.2.2

/-- The spacing between tokens is blank. -/
lemma isBlank_space {c : Char} (h : isSpace c = true) : Text.isBlank c = true :=
  of_isSpace (P := fun c => Text.isBlank c = true) h (by decide)

/-- A character that ends a token has each property of the five spaces. -/
lemma Ends.head {P : Char → Prop} {rest : List Char} (h : Ends rest)
    (hp : P ' ' ∧ P '\t' ∧ P '\x0c' ∧ P '\r' ∧ P '\n') : ∀ c ∈ rest.head?, P c :=
  fun c hc => of_isSpace (h c hc) hp

/-- What stands behind the opening quote of a string literal: plain characters and escapes, and the
closing quote. No escape joins lines. -/
inductive Quoted (q : Char) : List Char → Prop where
  | quote :
    Quoted q [q]
  | plain {c cs} :
    c ≠ q →
    c ≠ '\\' →
    Quoted q cs →
    Quoted q (c :: cs)
  | escape {c cs} :
    c ≠ '\n' →
    Quoted q cs →
    Quoted q ('\\' :: c :: cs)

/-- A string literal, from its opening to its closing quote. -/
inductive IsString : List Char → Prop where
  | single {cs} :
    Quoted '\'' cs →
    IsString ('\'' :: cs)
  | double {cs} :
    Quoted '"' cs →
    IsString ('"' :: cs)

/-- One character of a class or more. -/
def Run (p : Char → Bool) (cs : List Char) : Prop :=
  cs ≠ [] ∧ ∀ c ∈ cs, p c = true

/-- The fraction of a number: nothing, or a point and digits. -/
inductive IsFraction : List Char → Prop where
  | none :
    IsFraction []
  | some {ds} :
    Run Text.isDigit ds →
    IsFraction ('.' :: ds)

/-- The exponent of a number: nothing, or a letter, a sign if any, and digits. -/
inductive IsExponent : List Char → Prop where
  | none :
    IsExponent []
  | some {e sign ds} :
    e = 'e' ∨ e = 'E' →
    sign = ['+'] ∨ sign = ['-'] ∨ sign = [] →
    Run Text.isDigit ds →
    IsExponent (e :: (sign ++ ds))

/-- A number without its sign. -/
inductive IsUnsigned : List Char → Prop where
  | decimal {whole point power} :
    Run Text.isDigit whole →
    IsFraction point →
    IsExponent power →
    IsUnsigned (whole ++ (point ++ power))
  | hexadecimal {x ds} :
    x = 'x' ∨ x = 'X' →
    Run Text.isHexDigit ds →
    IsUnsigned ('0' :: x :: ds)

/-- A number. -/
inductive IsNumber : List Char → Prop where
  | positive {cs} :
    IsUnsigned cs →
    IsNumber cs
  | negative {cs} :
    IsUnsigned cs →
    IsNumber ('-' :: cs)

/-- A run starts with a character of its class. -/
lemma Run.append_head {p : Char → Bool} {cs : List Char} (h : Run p cs) (ds : List Char) :
    ∃ c, (cs ++ ds).head? = some c ∧ p c = true := by
  obtain ⟨ne, all⟩ := h
  obtain ⟨c, cs, rfl⟩ := List.exists_cons_of_ne_nil ne
  exact ⟨c, rfl, all c (List.mem_cons_self ..)⟩

/-- What stands behind an opening quote is read up to the closing quote, whatever follows. -/
lemma Quoted.afterQuote {q : Char} {cs : List Char} (h : Quoted q cs) (hq : q ≠ '\\')
    (rest : List Char) : afterQuote? false q (cs ++ rest) = some cs := by
  induction h with
  | quote => rw [List.singleton_append, afterQuote_cons hq, if_pos rfl]
  | plain other slash _ ih =>
    rw [List.cons_append, afterQuote_cons slash, if_neg other, ih, Option.map_some]
  | escape line _ ih =>
    rw [List.cons_append, List.cons_append, afterQuote?, if_neg fun h => line h.1, ih,
      Option.map_some]

/-- A string literal is read as a whole, whatever follows. -/
lemma IsString.string_append {cs : List Char} (h : IsString cs) (rest : List Char) :
    string? false (cs ++ rest) = some cs := by
  cases h with
  | single h =>
    have body := h.afterQuote (by decide) rest
    rw [List.cons_append, string?, body]
    rfl
  | double h =>
    have body := h.afterQuote (by decide) rest
    rw [List.cons_append, string?, body]
    rfl

section Numbers

variable {cs rest : List Char}

/-- A digit is no punctuation of a number. -/
lemma digit_ne {c d : Char} (h : Text.isDigit c = true)
    (hd : d ∈ ['+', '-', '.', 'e', 'E', 'x', 'X']) : c ≠ d := by
  rintro rfl
  have none : ∀ d ∈ ['+', '-', '.', 'e', 'E', 'x', 'X'], Text.isDigit d = false :=
    List.all_iff_forall_prop.1 (by decide)
  cases h.symm.trans (none c hd)

/-- Something is taken of a run. -/
lemma Run.takeWhile_ne_nil {p : Char → Bool} (h : Run p cs) (rest : List Char) :
    (cs ++ rest).takeWhile p ≠ [] := by
  rw [List.takeWhile_append_of_pos h.2]
  exact List.append_ne_nil_of_left_ne_nil h.1 _

/-- A point and digits start a fraction, which goes on as far as the digits do. -/
lemma fraction_point {ds : List Char} (run : Run Text.isDigit ds) (rest : List Char) :
    fraction ('.' :: (ds ++ rest)) = '.' :: (ds ++ rest).takeWhile Text.isDigit := by
  rw [fraction]
  exact if_neg (run.takeWhile_ne_nil rest)

/-- A fraction is read as a whole in front of what is neither a digit nor a point. -/
lemma IsFraction.fraction_append (h : IsFraction cs)
    (hr : ∀ c ∈ rest.head?, Text.isDigit c = false ∧ c ≠ '.') : fraction (cs ++ rest) = cs := by
  cases h with
  | none =>
    rw [List.nil_append]
    unfold fraction
    split
    · exact absurd rfl (hr _ rfl).2
    · rfl
  | some run =>
    rw [List.cons_append, fraction_point run, takeWhile_front run.2 fun c hc => (hr c hc).1]

/-- A letter, a sign if any, and digits start an exponent, which goes on as far as the digits do. -/
lemma exponent_letter {e : Char} {sign ds : List Char} (letter : e = 'e' ∨ e = 'E')
    (hs : sign = ['+'] ∨ sign = ['-'] ∨ sign = []) (run : Run Text.isDigit ds) (rest : List Char) :
    exponent (e :: (sign ++ (ds ++ rest))) = e :: (sign ++ (ds ++ rest).takeWhile Text.isDigit) := by
  have taken (sign : List Char) : (if (ds ++ rest).takeWhile Text.isDigit = [] then []
      else e :: sign ++ (ds ++ rest).takeWhile Text.isDigit) =
        e :: (sign ++ (ds ++ rest).takeWhile Text.isDigit) :=
    if_neg (run.takeWhile_ne_nil rest)
  unfold exponent
  simp only [if_pos letter]
  rcases hs with rfl | rfl | rfl
  · exact taken ['+']
  · exact taken ['-']
  · -- Without a sign the digits follow the letter, and none of them is taken for one.
    obtain ⟨d, hd, digit⟩ := run.append_head rest
    split
    · next h =>
      rw [List.nil_append] at h
      rw [h] at hd
      cases hd
      exact absurd rfl (digit_ne digit (by decide))
    · next h =>
      rw [List.nil_append] at h
      rw [h] at hd
      cases hd
      exact absurd rfl (digit_ne digit (by decide))
    · exact taken []

/-- An exponent is read as a whole in front of what is neither a digit nor its letter. -/
lemma IsExponent.exponent_append (h : IsExponent cs)
    (hr : ∀ c ∈ rest.head?, Text.isDigit c = false ∧ c ≠ 'e' ∧ c ≠ 'E') :
    exponent (cs ++ rest) = cs := by
  cases h with
  | none =>
    match rest with
    | [] => rfl
    | c :: rest =>
      obtain ⟨-, lower, upper⟩ := hr c rfl
      exact if_neg fun e => e.elim lower upper
  | some letter hs run =>
    rw [List.cons_append, List.append_assoc, exponent_letter letter hs run,
      takeWhile_front run.2 fun c hc => (hr c hc).1]

/-- A fraction is empty, or it starts with a point. -/
lemma IsFraction.head_append {P : Char → Prop} (h : IsFraction cs) (point : P '.')
    (rest : List Char) : cs = [] ∨ ∀ c ∈ (cs ++ rest).head?, P c := by
  cases h with
  | none => exact .inl rfl
  | some =>
    refine .inr ?_
    rintro _ ⟨⟩
    exact point

/-- An exponent is empty or starts with its letter. -/
lemma IsExponent.head_append {P : Char → Prop} (h : IsExponent cs) (letters : P 'e' ∧ P 'E')
    (rest : List Char) : cs = [] ∨ ∀ c ∈ (cs ++ rest).head?, P c := by
  cases h with
  | none => exact .inl rfl
  | some letter =>
    refine .inr ?_
    rintro _ ⟨⟩
    rcases letter with rfl | rfl
    · exact letters.1
    · exact letters.2

/-- What is true of the point and of the character behind a fraction is true of the first of them. -/
lemma IsFraction.head {P : Char → Prop} (h : IsFraction cs) (point : P '.')
    (hr : ∀ c ∈ rest.head?, P c) : ∀ c ∈ (cs ++ rest).head?, P c := by
  rcases h.head_append point rest with rfl | first
  · exact hr
  · exact first

/-- What starts with an exponent has each property of its letter and of what follows. -/
lemma IsExponent.head {P : Char → Prop} (h : IsExponent cs) (letters : P 'e' ∧ P 'E')
    (hr : ∀ c ∈ rest.head?, P c) : ∀ c ∈ (cs ++ rest).head?, P c := by
  rcases h.head_append letters rest with rfl | first
  · exact hr
  · exact first

/-- Without the letter of the hexadecimal form as its second character a text is not of that form. -/
lemma hexadecimal_none {c : Char} (h : ∀ x ∈ cs.head?, x ≠ 'x' ∧ x ≠ 'X') :
    hexadecimal? (c :: cs) = none := by
  unfold hexadecimal?
  split
  · next x rest e =>
    cases e
    obtain ⟨lower, upper⟩ := h x rfl
    exact if_neg fun both => both.1.elim lower upper
  · rfl

/-- A decimal number goes on behind its digits with a fraction and an exponent. -/
lemma decimal_digits {whole : List Char} (run : Run Text.isDigit whole)
    (hr : ∀ c ∈ rest.head?, Text.isDigit c = false) :
    decimal? (whole ++ rest) =
      some (whole ++ (fraction rest ++ exponent (rest.drop (fraction rest).length))) := by
  have digits : (whole ++ rest).takeWhile Text.isDigit = whole := takeWhile_front run.2 hr
  rw [decimal?]
  simp only [digits, if_neg run.1, List.drop_left, List.append_assoc, List.length_append,
    List.drop_length_add_append]

/-- A decimal number is a single character, or it is not of the hexadecimal form. -/
lemma hexadecimal_decimal {whole point power : List Char} (run : Run Text.isDigit whole)
    (hf : IsFraction point) (he : IsExponent power) (rest : List Char) :
    (∃ c, whole ++ (point ++ power) = [c]) ∨
      hexadecimal? (whole ++ (point ++ (power ++ rest))) = none := by
  obtain ⟨c, ds, rfl⟩ := List.exists_cons_of_ne_nil run.1
  cases ds with
  | cons d ds =>
    refine .inr (hexadecimal_none ?_)
    rintro _ ⟨⟩
    have digit := run.2 d (by simp)
    exact ⟨digit_ne digit (by decide), digit_ne digit (by decide)⟩
  | nil =>
    rcases hf.head_append (P := fun c => c ≠ 'x' ∧ c ≠ 'X') (by decide) (power ++ rest) with
      rfl | first
    · rcases he.head_append (P := fun c => c ≠ 'x' ∧ c ≠ 'X') (by decide) rest with rfl | first
      · exact .inl ⟨c, rfl⟩
      · exact .inr (hexadecimal_none first)
    · exact .inr (hexadecimal_none first)

/-- A number without sign is read as a whole in front of spacing. -/
lemma IsUnsigned.unsigned_append (h : IsUnsigned cs) (hr : Ends rest) :
    unsigned? (cs ++ rest) = some cs := by
  cases h with
  | @decimal whole point power run hf he =>
    -- From the point on no digit follows, and no letter of the hexadecimal form.
    have afterPower : ∀ c ∈ rest.head?, Text.isDigit c = false ∧ c ≠ 'e' ∧ c ≠ 'E' :=
      hr.head (by decide)
    have afterPoint : ∀ c ∈ (power ++ rest).head?, Text.isDigit c = false ∧ c ≠ '.' :=
      he.head (by decide) (hr.head (by decide))
    have afterWhole : ∀ c ∈ (point ++ (power ++ rest)).head?, Text.isDigit c = false :=
      hf.head (by decide) (he.head (by decide) (hr.head (by decide)))
    have hexadecimal : hexadecimal? (whole ++ (point ++ (power ++ rest))) = none := by
      rcases hexadecimal_decimal run hf he rest with ⟨c, single⟩ | none
      · rw [← List.append_assoc, ← List.append_assoc, List.append_assoc whole, single]
        exact hexadecimal_none (hr.head (by decide))
      · exact none
    have decimal := decimal_digits run afterWhole
    rw [List.append_assoc, List.append_assoc, unsigned?, hexadecimal, Option.none_or, decimal,
      hf.fraction_append afterPoint, List.drop_left, he.exponent_append afterPower]
  | @hexadecimal x ds letter run =>
    have digits : (ds ++ rest).takeWhile Text.isHexDigit = ds :=
      takeWhile_front run.2 (hr.head (by decide))
    have whole : hexadecimal? ('0' :: x :: (ds ++ rest)) = some ('0' :: x :: ds) := by
      rw [hexadecimal?]
      simp only [digits]
      exact if_pos ⟨letter, run.1⟩
    rw [List.cons_append, List.cons_append, unsigned?, whole, Option.some_or]

/-- A number starts with a digit, behind its sign if there is one. -/
lemma IsUnsigned.append_head (h : IsUnsigned cs) (rest : List Char) :
    ∃ c, (cs ++ rest).head? = some c ∧ Text.isDigit c = true := by
  cases h with
  | decimal run =>
    rw [List.append_assoc]
    exact run.append_head _
  | hexadecimal => exact ⟨'0', rfl, by decide⟩

/-- Without a sign a number is read as its digits are. -/
lemma IsUnsigned.number_eq (h : IsUnsigned cs) (rest : List Char) :
    number? (cs ++ rest) = unsigned? (cs ++ rest) := by
  obtain ⟨c, hc, digit⟩ := h.append_head rest
  unfold number?
  split
  · next e =>
    rw [e] at hc
    cases hc
    exact absurd rfl (digit_ne digit (by decide))
  · rfl

/-- A number is read as a whole in front of spacing. -/
lemma IsNumber.number_append (h : IsNumber cs) (hr : Ends rest) :
    number? (cs ++ rest) = some cs := by
  cases h with
  | positive h => rw [h.number_eq rest, h.unsigned_append hr]
  | negative h => rw [List.cons_append, number?, h.unsigned_append hr, Option.map_some]

end Numbers

/-- A character that is not trimmed and does not open a placeholder. -/
def Firm (c : Char) : Prop :=
  Text.isBlank c = false ∧ c ≠ '$'

instance : DecidablePred Firm :=
  fun c => inferInstanceAs (Decidable (Text.isBlank c = false ∧ c ≠ '$'))

/-- A character of a name is firm. -/
lemma firm_nameChar {c : Char} (h : isNameChar c = true) : Firm c := by
  refine ⟨isBlank_nameChar h, ?_⟩
  rintro rfl
  cases h

/-- A digit is firm. -/
lemma firm_digit {c : Char} (h : Text.isDigit c = true) : Firm c := by
  refine ⟨Text.not_isBlank_digit h, ?_⟩
  rintro rfl
  exact absurd h (by rw [Text.not_isDigit_ascii (by decide) rfl]; decide)

/-- A hexadecimal digit is firm. -/
lemma firm_hexDigit {c : Char} (h : Text.isHexDigit c = true) : Firm c := by
  have range : 48 ≤ c.toNat ∧ c.toNat ≤ 102 := by
    have bounds {a b : Char} (h : a ≤ c ∧ c ≤ b) : a.toNat ≤ c.toNat ∧ c.toNat ≤ b.toNat :=
      ⟨UInt32.le_iff_toNat_le.1 h.1, UInt32.le_iff_toNat_le.1 h.2⟩
    rw [Text.isHexDigit, Text.hexDigit?] at h
    split at h
    · next digit =>
      have : 48 ≤ c.toNat ∧ c.toNat ≤ 57 := bounds digit
      omega
    · split at h
      · next lower =>
        have : 97 ≤ c.toNat ∧ c.toNat ≤ 102 := bounds lower
        omega
      · split at h
        · next upper =>
          have : 65 ≤ c.toNat ∧ c.toNat ≤ 70 := bounds upper
          omega
        · cases h
  refine ⟨Text.not_isBlank_ascii (by omega) (by omega), ?_⟩
  rintro rfl
  exact absurd range (by decide)

/-- A run of firm characters is firm. -/
lemma Run.firm {p : Char → Bool} {cs : List Char} (h : Run p cs) (hp : ∀ c, p c = true → Firm c) :
    ∀ c ∈ cs, Firm c :=
  fun c hc => hp c (h.2 c hc)

/-- A fraction is firm. -/
lemma IsFraction.firm {cs : List Char} (h : IsFraction cs) : ∀ c ∈ cs, Firm c := by
  cases h with
  | none => exact List.forall_mem_nil _
  | some run => exact List.forall_mem_cons.2 ⟨by decide, run.firm fun _ => firm_digit⟩

/-- An exponent is firm. -/
lemma IsExponent.firm {cs : List Char} (h : IsExponent cs) : ∀ c ∈ cs, Firm c := by
  cases h with
  | none => exact List.forall_mem_nil _
  | some letter hs run =>
    refine List.forall_mem_cons.2 ⟨?_, List.forall_mem_append.2 ⟨?_, run.firm fun _ => firm_digit⟩⟩
    · rcases letter with rfl | rfl
      · decide
      · decide
    · rcases hs with rfl | rfl | rfl
      · exact List.all_iff_forall_prop.1 (by decide)
      · exact List.all_iff_forall_prop.1 (by decide)
      · exact List.forall_mem_nil _

/-- A number without sign is firm. -/
lemma IsUnsigned.firm {cs : List Char} (h : IsUnsigned cs) : ∀ c ∈ cs, Firm c := by
  cases h with
  | decimal run hf he =>
    exact List.forall_mem_append.2 ⟨run.firm fun _ => firm_digit,
      List.forall_mem_append.2 ⟨hf.firm, he.firm⟩⟩
  | hexadecimal letter run =>
    refine List.forall_mem_cons.2 ⟨by decide, List.forall_mem_cons.2 ⟨?_, ?_⟩⟩
    · rcases letter with rfl | rfl
      · decide
      · decide
    · exact run.firm fun _ => firm_hexDigit

/-- A number is firm. -/
lemma IsNumber.firm {cs : List Char} (h : IsNumber cs) : ∀ c ∈ cs, Firm c := by
  cases h with
  | positive h => exact h.firm
  | negative h => exact List.forall_mem_cons.2 ⟨by decide, h.firm⟩

/-- What stands behind an opening quote ends with that quote. -/
lemma Quoted.getLast {q : Char} {cs : List Char} (h : Quoted q cs) : cs.getLast? = some q := by
  induction h with
  | quote => rfl
  | plain _ _ _ ih => rw [List.getLast?_cons, ih, Option.getD_some]
  | escape _ _ ih => rw [List.getLast?_cons, List.getLast?_cons, ih, Option.getD_some, Option.getD_some]

/-- A string literal starts with a firm character. -/
lemma IsString.head {cs : List Char} (h : IsString cs) : ∀ c ∈ cs.head?, Firm c := by
  cases h with
  | _ =>
    rintro _ ⟨⟩
    decide

/-- A string literal ends with a firm character. -/
lemma IsString.last {cs : List Char} (h : IsString cs) : ∀ c ∈ cs.getLast?, Firm c := by
  cases h with
  | single h =>
    rw [List.getLast?_cons, h.getLast]
    rintro _ ⟨⟩
    decide
  | double h =>
    rw [List.getLast?_cons, h.getLast]
    rintro _ ⟨⟩
    decide

section First

variable {cs rest : List Char} {k : Terminal}

/-- No identifier starts with a digit of any script. -/
lemma not_isNameStart_digit {c : Char} (h : Text.isDigit c = true) : isNameStart c = false := by
  rw [Bool.eq_false_iff]
  intro start
  have ascii : c.toNat < 128 := by
    simp only [isNameStart, Bool.or_eq_true, beq_iff_eq] at start
    rcases start with letter | rfl
    · have := range_ascii_letter letter
      omega
    · decide
  have noDigit : c.isDigit = false := by
    rw [Bool.eq_false_iff]
    intro digit
    cases start.symm.trans (isNameStart_digit digit)
  cases h.symm.trans (Text.not_isDigit_ascii ascii noDigit)

/-- A number is no identifier, whatever follows it. -/
lemma IsNumber.identifier_none (h : IsNumber cs) (rest : List Char) :
    identifier? (cs ++ rest) = none := by
  cases h with
  | positive h =>
    obtain ⟨c, hc, digit⟩ := h.append_head rest
    obtain ⟨ds, e⟩ := List.head?_eq_some_iff.1 hc
    rw [e, identifier?, if_neg (by simp [not_isNameStart_digit digit])]
  | negative => rfl

/-- A number in front of spacing is the first lexeme. -/
lemma first_number (h : IsNumber cs) (hr : Ends rest) :
    first? (cs ++ rest) = some (.number, cs) := by
  rw [first?, h.identifier_none rest]
  simp only [h.number_append hr]

/-- At a quote nothing but a string literal is scanned. -/
lemma first_quote {q : Char} {rest : List Char} (h : isQuote q = true) :
    first? (q :: rest) = (string? false (q :: rest)).map fun l => (.string, l) := by
  have quotes := quote_cases h
  have word : identifier? (q :: rest) = none := by
    rcases quotes with rfl | rfl <;> rfl
  have number : number? (q :: rest) = none := by
    rcases quotes with rfl | rfl
    · exact number_none (Text.not_isDigit_ascii (by decide) rfl) (by decide)
    · exact number_none (Text.not_isDigit_ascii (by decide) rfl) (by decide)
  have symbol : symbol? (q :: rest) = none := by
    rcases quotes with rfl | rfl <;> rfl
  rw [first?, word]
  simp only [number, symbol]
  cases string? false (q :: rest) with
  | none => rfl
  | some l => rfl

/-- A string literal is the first lexeme, whatever follows. -/
lemma first_string (h : IsString cs) (rest : List Char) :
    first? (cs ++ rest) = some (.string, cs) := by
  have literal := h.string_append rest
  cases h with
  | _ =>
    rw [List.cons_append] at literal ⊢
    rw [first_quote rfl, literal, Option.map_some]

/-- The symbol of an operator is read as that operator. -/
lemma symbol_operator (op : Operator) :
    symbol? op.symbol.toList = some (.operator op, op.symbol.toList) := by
  cases op with
  | relation r => cases r <;> rfl
  | _ => rfl

/-- Where a symbol stands, nothing but a symbol is scanned. -/
lemma first_symbol_eq (h : symbol? cs = some (k, cs)) (rest : List Char) :
    first? (cs ++ rest) = symbol? (cs ++ rest) := by
  unfold symbol? at h
  split at h
  all_goals
    cases h
  all_goals
    exact first_symbol (by decide) (by decide)

/-- A text that is one symbol is scanned as it in front of spacing. -/
lemma first_symbol_append (h : symbol? cs = some (k, cs)) (hr : Ends rest) :
    first? (cs ++ rest) = some (k, cs) := by
  -- Some symbols are the start of a longer one, so that the next character has to be known.
  have next : rest = [] ∨ ∃ c ∈ [' ', '\t', '\x0c', '\r', '\n'], ∃ ds, rest = c :: ds := by
    cases rest with
    | nil => exact .inl rfl
    | cons c ds => exact .inr ⟨c, hr.head (by decide) c rfl, ds, rfl⟩
  simp only [List.mem_cons, List.not_mem_nil, or_false, exists_eq_or_imp, exists_eq_left] at next
  rw [first_symbol_eq h]
  unfold symbol? at h
  split at h
  all_goals
    cases h
  all_goals
    rcases next with rfl | ⟨ds, rfl⟩ | ⟨ds, rfl⟩ | ⟨ds, rfl⟩ | ⟨ds, rfl⟩ | ⟨ds, rfl⟩
  all_goals
    rfl

/-- A symbol is firm. -/
lemma symbol_firm (h : symbol? cs = some (k, cs)) : ∀ c ∈ cs, Firm c := by
  unfold symbol? at h
  split at h
  all_goals
    cases h
  all_goals
    exact List.all_iff_forall_prop.1 (by decide)

end First

end WorkflowExpr.Lexeme
