import WorkflowExpr.Proofs.Expr.Lexeme

/-!
# How far a token reaches

A token is a front part of the text that it is scanned from. Only string literals hold quotes or closing
braces, and where a string literal ends does not depend on what follows it.
-/

namespace WorkflowExpr.Lexeme

/-- There are two quotes. -/
lemma quote_cases {q : Char} (h : isQuote q = true) : q = '\'' ∨ q = '"' := by
  simpa [isQuote] using h

/-- A character that neither opens a string literal nor closes a brace. -/
def isQuiet (c : Char) : Bool :=
  !isQuote c && c != '\x7d'

/-- A class of characters without quotes and closing braces is quiet. -/
lemma quiet_of_class {p : Char → Bool} (single : p '\'' = false) (double : p '"' = false)
    (brace : p '\x7d' = false) {c : Char} (h : p c = true) : isQuiet c = true := by
  have ne {d : Char} (hd : p d = false) : (c == d) = false := by
    rw [beq_eq_false_iff_ne]
    rintro rfl
    cases h.symm.trans hd
  rw [isQuiet, isQuote, bne, ne single, ne double, ne brace]
  rfl

/-- The front part of a text, without any quote or closing brace. -/
structure QuietFront (l cs : List Char) : Prop where
  front : l <+: cs
  quiet : ∀ c ∈ l, isQuiet c = true

namespace QuietFront

variable {l l' cs : List Char} {c : Char}

/-- The empty front is quiet. -/
lemma nil : QuietFront [] cs :=
  ⟨List.nil_prefix, List.forall_mem_nil _⟩

/-- A quiet character lengthens a quiet front. -/
lemma cons (hc : isQuiet c = true) (h : QuietFront l cs) : QuietFront (c :: l) (c :: cs) :=
  ⟨(List.prefix_cons_inj c).2 h.front, List.forall_mem_cons.2 ⟨hc, h.quiet⟩⟩

/-- Two quiet fronts, one behind the other, are one. -/
lemma append (h : QuietFront l cs) (h' : QuietFront l' (cs.drop l.length)) :
    QuietFront (l ++ l') cs := by
  obtain ⟨rest, rfl⟩ := h.front
  rw [List.drop_left] at h'
  exact ⟨(List.prefix_append_right_inj l).2 h'.front, List.forall_mem_append.2 ⟨h.quiet, h'.quiet⟩⟩

/-- A run of quiet characters is a quiet front. -/
lemma takeWhile {p : Char → Bool} (hp : ∀ c, p c = true → isQuiet c = true) :
    QuietFront (cs.takeWhile p) cs :=
  ⟨List.takeWhile_prefix p, fun c hc => hp c (List.all_eq_true.1 List.all_takeWhile c hc)⟩

/-- Digits are a quiet front. -/
lemma digits : QuietFront (cs.takeWhile Text.isDigit) cs :=
  takeWhile fun _ =>
    quiet_of_class (Text.not_isDigit_ascii (by decide) rfl) (Text.not_isDigit_ascii (by decide) rfl)
      (Text.not_isDigit_ascii (by decide) rfl)

/-- The fraction of a number is a quiet front. -/
lemma fraction : QuietFront (fraction cs) cs := by
  unfold Lexeme.fraction
  split
  · dsimp only
    split
    · exact nil
    · exact digits.cons rfl
  · exact nil

/-- The exponent of a number is a quiet front. -/
lemma exponent : QuietFront (exponent cs) cs := by
  unfold Lexeme.exponent
  split
  · next e rest =>
    split
    · next he =>
      have letter : isQuiet e = true := by
        rcases he with rfl | rfl
        · rfl
        · rfl
      have signed {sign : List Char} (hs : QuietFront sign rest) :
          QuietFront (if (rest.drop sign.length).takeWhile Text.isDigit = [] then []
            else e :: sign ++ (rest.drop sign.length).takeWhile Text.isDigit) (e :: rest) := by
        split
        · exact nil
        · exact cons letter (hs.append digits)
      dsimp only
      split
      · exact signed (nil.cons rfl)
      · exact signed (nil.cons rfl)
      · exact signed nil
    · exact nil
  · exact nil

/-- A decimal number is a quiet front. -/
lemma decimal (h : decimal? cs = some l) : QuietFront l cs := by
  unfold decimal? at h
  dsimp only at h
  split at h
  · cases h
  · cases h
    exact (digits.append fraction).append exponent

/-- A hexadecimal number is a quiet front. -/
lemma hexadecimal (h : hexadecimal? cs = some l) : QuietFront l cs := by
  unfold hexadecimal? at h
  split at h
  · next x rest =>
    dsimp only at h
    split at h
    · next hx =>
      cases h
      have letter : isQuiet x = true := by
        rcases hx.1 with rfl | rfl
        · rfl
        · rfl
      refine cons rfl (cons letter (takeWhile fun _ => ?_))
      exact quiet_of_class (by decide) (by decide) (by decide)
    · cases h
  · cases h

/-- A number without sign is a quiet front. -/
lemma unsigned (h : unsigned? cs = some l) : QuietFront l cs := by
  unfold unsigned? at h
  rcases Option.or_eq_some_iff.1 h with h | ⟨-, h⟩
  · exact hexadecimal h
  · exact decimal h

/-- A number is a quiet front. -/
lemma number (h : number? cs = some l) : QuietFront l cs := by
  unfold number? at h
  split at h
  · obtain ⟨digits, hd, rfl⟩ := Option.map_eq_some_iff.1 h
    exact (unsigned hd).cons rfl
  · exact unsigned h

/-- An identifier is a quiet front. -/
lemma identifier (h : identifier? cs = some l) : QuietFront l cs := by
  unfold identifier? at h
  split at h
  · next c rest =>
    split at h
    · next hc =>
      cases h
      have first : isQuiet c = true := quiet_of_class (by decide) (by decide) (by decide) hc
      refine cons first (takeWhile fun _ => ?_)
      exact quiet_of_class (by decide) (by decide) (by decide)
    · cases h
  · cases h

/-- A symbol is a quiet front. -/
lemma symbol {k : Terminal} (h : symbol? cs = some (k, l)) : QuietFront l cs := by
  unfold symbol? at h
  split at h
  all_goals first
    | cases h
      exact nil.cons rfl
    | cases h
      exact (nil.cons rfl).cons rfl
    | cases h

end QuietFront

/-- In a string literal each character but a backslash ends it or goes on. -/
lemma afterQuote_cons {joins : Bool} {q c : Char} {rest : List Char} (hc : c ≠ '\\') :
    afterQuote? joins q (c :: rest) =
      if c = q then some [c] else (afterQuote? joins q rest).map fun body => c :: body := by
  rw [afterQuote?]
  · exact fun e _ => hc e
  · exact fun _ _ e _ => hc e

/-- A backslash takes a character along or is the end of the text. -/
lemma ne_backslash {c : Char} {rest : List Char} (alone : c = '\\' → rest = [] → False)
    (escaping : ∀ d ds, c = '\\' → rest = d :: ds → False) : c ≠ '\\' := by
  intro e
  cases rest with
  | nil => exact alone e rfl
  | cons d ds => exact escaping d ds e rfl

/-- A string literal ends at the same place whatever follows it, also where lines are joined. -/
lemma afterQuote_append {q : Char} {rest body : List Char}
    (h : afterQuote? false q rest = some body) :
    body <+: rest ∧ ∀ joins tail, afterQuote? joins q (body ++ tail) = some body := by
  fun_induction afterQuote? false q rest generalizing body with
  | case1 => cases h
  | case2 => cases h
  | case3 => cases h
  | case4 c rest hc ih =>
    obtain ⟨inner, hi, rfl⟩ := Option.map_eq_some_iff.1 h
    obtain ⟨front, ends⟩ := ih hi
    refine ⟨(List.prefix_cons_inj _).2 ((List.prefix_cons_inj c).2 front), fun joins tail => ?_⟩
    have newline : ¬ (c = '\n' ∧ joins = false) := fun e => hc ⟨e.1, rfl⟩
    rw [List.cons_append, List.cons_append, afterQuote?, if_neg newline, ends joins tail,
      Option.map_some]
  | case5 rest alone escaping =>
    cases h
    refine ⟨(List.prefix_cons_inj q).2 List.nil_prefix, fun joins tail => ?_⟩
    rw [List.singleton_append, afterQuote_cons (ne_backslash alone escaping), if_pos rfl]
  | case6 c rest alone escaping other ih =>
    obtain ⟨inner, hi, rfl⟩ := Option.map_eq_some_iff.1 h
    obtain ⟨front, ends⟩ := ih hi
    refine ⟨(List.prefix_cons_inj c).2 front, fun joins tail => ?_⟩
    rw [List.cons_append, afterQuote_cons (ne_backslash alone escaping), if_neg other, ends joins tail,
      Option.map_some]

/-- A string literal is an opening quote and what there is up to the closing one. -/
lemma string_eq_some {cs l : List Char} (h : string? false cs = some l) :
    ∃ q rest body, cs = q :: rest ∧ isQuote q = true ∧ afterQuote? false q rest = some body ∧
      l = q :: body := by
  unfold string? at h
  split at h
  · next q rest =>
    split at h
    · next hq =>
      obtain ⟨body, hb, rfl⟩ := Option.map_eq_some_iff.1 h
      exact ⟨q, rest, body, rfl, hq, hb, rfl⟩
    · cases h
  · cases h

/-- A token is a quiet front part of the text, or a string literal. -/
lemma first_front {cs chars : List Char} {k : Terminal} (h : first? cs = some (k, chars)) :
    QuietFront chars cs ∨ string? false cs = some chars := by
  unfold first? at h
  split at h
  · next hw =>
    cases h
    exact .inl (.identifier hw)
  · split at h
    · next hn =>
      cases h
      exact .inl (.number hn)
    · split at h
      · next hs =>
        cases h
        exact .inr hs
      · exact .inl (.symbol h)

/-- A token is a front part of the text. -/
lemma first_prefix {cs chars : List Char} {k : Terminal} (h : first? cs = some (k, chars)) :
    chars <+: cs := by
  obtain quiet | literal := first_front h
  · exact quiet.front
  · obtain ⟨q, rest, body, rfl, -, hb, rfl⟩ := string_eq_some literal
    exact (List.prefix_cons_inj q).2 (afterQuote_append hb).1

end WorkflowExpr.Lexeme
