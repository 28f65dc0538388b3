import WorkflowExpr.Proofs.Expr.Viable

/-!
# Tokens with any spacing between them

How much spacing stands between two lexemes does not count, as long as there is some: the text is scanned into
just these lexemes. So the tokens of a text can be laid out anew, and they are read as before.
-/

namespace WorkflowExpr

open Lexeme

/-- Lexemes that are joined by spacing, with one character of it or more between each two. -/
inductive Joined : List String → String → Prop where
  | nil :
    Joined [] ""
  | one {l} :
    Joined [l] l
  | more {l l' ls gap text} :
    Run isSpace gap.toList →
    Joined (l' :: ls) text →
    Joined (l :: l' :: ls) (l ++ gap ++ text)

/-- The expression that a text is parsed into, or the reason why there is none. -/
def reading (text : String) (limit : Int) : Except SyntaxReason Expr :=
  ((parse text limit).map Parsed.root).mapError SyntaxFault.reason

namespace Lexeme

/-- A text that is scanned as one token. -/
def IsLexeme (l : List Char) : Prop :=
  ∃ k, first? l = some (k, l)

/-- A word is an identifier or one of the keywords. -/
lemma wordTerminal_cases (l : List Char) :
    wordTerminal l = .identifier ∨ String.ofList l ∈ ["true", "false", "null"] := by
  unfold wordTerminal
  split
  · next word =>
    rw [word]
    exact .inr (by decide)
  · split
    · next word =>
      rw [word]
      exact .inr (by decide)
    · split
      · next word =>
        rw [word]
        exact .inr (by decide)
      · exact .inl rfl

/-- The text of a terminal is scanned as one token of this terminal, unless a keyword is taken for an
identifier. -/
lemma first_matches {k : Terminal} {l : List Char} (h : k.Matches l) :
    ∃ k', first? l = some (k', l) ∧
      (k' = k ∨ k = .identifier ∧ String.ofList l ∈ ["true", "false", "null"]) := by
  have alone {k : Terminal} (h : first? (l ++ []) = some (k, l)) : first? l = some (k, l) := by
    rwa [List.append_nil] at h
  have symbol {k : Terminal} (h : symbol? l = some (k, l)) : first? l = some (k, l) :=
    alone (first_symbol_append h .nil)
  cases h with
  | @identifier c cs hc hcs =>
    refine ⟨_, alone (first_word hc hcs nofun), ?_⟩
    rcases wordTerminal_cases (c :: cs) with name | keyword
    · exact .inl name
    · exact .inr ⟨rfl, keyword⟩
  | number h => exact ⟨_, alone (first_number h .nil), .inl rfl⟩
  | string h => exact ⟨_, alone (first_string h []), .inl rfl⟩
  | trueWord => exact ⟨_, rfl, .inl rfl⟩
  | falseWord => exact ⟨_, rfl, .inl rfl⟩
  | nullWord => exact ⟨_, rfl, .inl rfl⟩
  | @operator op => exact ⟨_, symbol (symbol_operator op), .inl rfl⟩
  | _ => exact ⟨_, symbol rfl, .inl rfl⟩

/-- A lexeme starts with a character that neither trimming nor unwrapping takes away. -/
lemma IsLexeme.head {l : List Char} (h : IsLexeme l) : ∃ c, l.head? = some c ∧ Firm c := by
  obtain ⟨k, first⟩ := h
  obtain ⟨c, cs, rfl⟩ := List.exists_cons_of_ne_nil (first_ne_nil first)
  refine ⟨c, rfl, ?_⟩
  rcases first_firm first with literal | firm
  · exact literal.head c rfl
  · exact firm c (List.mem_cons_self ..)

/-- A lexeme ends with a firm character. -/
lemma IsLexeme.last {l : List Char} (h : IsLexeme l) : ∃ c, l.getLast? = some c ∧ Firm c := by
  obtain ⟨k, first⟩ := h
  have last := List.getLast?_eq_some_getLast (first_ne_nil first)
  refine ⟨_, last, ?_⟩
  rcases first_firm first with literal | firm
  · exact literal.last _ last
  · exact firm _ (List.getLast_mem _)

end Lexeme

namespace Cut

variable {rest front : List Char} {position : Nat} {ts : List Token}

/-- Spaces in front of a cut belong to it. -/
lemma spaces {gap : List Char} (hg : ∀ c ∈ gap, isSpace c = true)
    (h : Cut rest (position + gap.length) front ts) : Cut rest position (gap ++ front) ts := by
  induction gap generalizing position with
  | nil => exact h
  | cons c gap ih =>
    obtain ⟨hc, hgap⟩ := List.forall_mem_cons.1 hg
    rw [List.length_cons, Nat.add_comm gap.length, ← Nat.add_assoc] at h
    exact .space hc (ih hgap h)

end Cut

namespace Joined

variable {ls : List String} {text : String}

/-- Joined lexemes are cut into these. -/
lemma cut (h : Joined ls text) (each : ∀ l ∈ ls, IsLexeme l.toList) (position : Nat) :
    ∃ ts, Cut [] position text.toList ts ∧ ts.map Token.text = ls := by
  induction h generalizing position with
  | nil => exact ⟨[], .nil, rfl⟩
  | @one l =>
    obtain ⟨k, first⟩ := each l (List.mem_singleton_self l)
    have token := @Cut.token [] position k l.toList [] [] (by simpa using first) .nil
    rw [List.append_nil] at token
    exact ⟨_, token, congrArg (fun l => [l]) String.ofList_toList⟩
  | @more l l' ls gap text spacing _ ih =>
    obtain ⟨⟨k, first⟩, others⟩ := List.forall_mem_cons.1 each
    obtain ⟨ts, cut, texts⟩ := ih others (position + l.toList.length + gap.toList.length)
    have ends : Ends (gap.toList ++ text.toList) := by
      obtain ⟨c, head, space⟩ := spacing.append_head text.toList
      rw [Ends, head]
      rintro _ ⟨⟩
      exact space
    have front : first? (l.toList ++ (gap.toList ++ text.toList ++ [])) = some (k, l.toList) := by
      rw [List.append_nil]
      exact first_ends first ends
    refine ⟨⟨k, l.toList, position⟩ :: ts, ?_, ?_⟩
    · rw [String.toList_append, String.toList_append, List.append_assoc]
      exact .token front (cut.spaces spacing.2)
    · rw [List.map_cons, texts, Token.text, String.ofList_toList]

/-- Joined lexemes start with a firm character. -/
lemma head (h : Joined ls text) (each : ∀ l ∈ ls, IsLexeme l.toList) :
    ∀ c ∈ text.toList.head?, Firm c := by
  cases h with
  | nil => nofun
  | one =>
    obtain ⟨c, head, firm⟩ := (each text (List.mem_singleton_self text)).head
    rw [head]
    rintro _ ⟨⟩
    exact firm
  | more =>
    obtain ⟨c, head, firm⟩ := (each _ (List.mem_cons_self ..)).head
    rw [String.toList_append, String.toList_append, List.append_assoc, List.head?_append, head]
    rintro _ ⟨⟩
    exact firm

/-- Joined lexemes end with a firm character, if there are any. -/
lemma last (h : Joined ls text) (each : ∀ l ∈ ls, IsLexeme l.toList) (nonempty : ls ≠ []) :
    ∃ c, text.toList.getLast? = some c ∧ Firm c := by
  induction h with
  | nil => exact absurd rfl nonempty
  | @one l => exact (each l (List.mem_singleton_self l)).last
  | more _ _ ih =>
    obtain ⟨c, last, firm⟩ := ih (fun l hl => each l (List.mem_cons_of_mem _ hl)) (List.cons_ne_nil _ _)
    refine ⟨c, ?_, firm⟩
    rw [String.toList_append, List.getLast?_append, last, Option.some_or]

/-- Trimming and unwrapping leave joined lexemes alone. -/
lemma unwrapped (h : Joined ls text) (each : ∀ l ∈ ls, IsLexeme l.toList) :
    (unwrap text.toList).1 = text.toList := by
  have edge : ∀ c ∈ text.toList.getLast?, Text.isBlank c = false := by
    cases ls with
    | nil =>
      cases h
      nofun
    | cons =>
      obtain ⟨c, last, firm⟩ := h.last each (List.cons_ne_nil _ _)
      rw [last]
      rintro _ ⟨⟩
      exact firm.1
  rw [unwrap_eq_self (h.head each) edge]

end Joined

section Reading

variable {ts us : List Token}

/-- The expression that tokens are read into which make up a text, or the reason why there is none. -/
def verdict (ts : List Token) (limit : Int) : Except SyntaxReason Expr :=
  if ts.isEmpty then .error .emptyExpression
  else
    match ParseState.start.run ts with
    | .error t => .error (refusedReason t)
    | .ok s =>
      match s.result? with
      | none => .error (endReason s)
      | some e => if e.fits limit then .ok e else .error (.tooDeep limit)

/-- The verdict depends on the terminals and texts of tokens alone. -/
lemma verdict_congr (same : us.map Token.lexeme = ts.map Token.lexeme) (limit : Int) :
    verdict us limit = verdict ts limit := by
  have empty : us.isEmpty = ts.isEmpty := by
    rw [← List.isEmpty_map (f := Token.lexeme), same, List.isEmpty_map]
  have run := ParseState.run_congr (s := .start) same
  rw [verdict, verdict, empty]
  -- Both runs end alike, so the mixed cases are impossible.
  cases hu : ParseState.start.run us with
  | error u =>
    rw [hu] at run
    cases ht : ParseState.start.run ts with
    | error t =>
      rw [ht] at run
      obtain ⟨k, chars, position⟩ := t
      obtain ⟨k', chars', position'⟩ := u
      cases run
      rfl
    | ok s =>
      rw [ht] at run
      cases run
  | ok s =>
    rw [hu] at run
    cases ht : ParseState.start.run ts with
    | error t =>
      rw [ht] at run
      cases run
    | ok s' =>
      rw [ht] at run
      cases run
      rfl

/-- What a text is read as follows from its tokens, if it is scanned to its end. -/
lemma reading_eq {text : String} (stuck : (scan (unwrap text.toList).1).stuck = none) (limit : Int) :
    reading text limit = verdict (scan (unwrap text.toList).1).tokens limit := by
  by_cases empty : (unwrap text.toList).1 = []
  · rw [reading, parse, empty, scan, scanFrom_nil]
    rfl
  · have tokens : (scan (unwrap text.toList).1).tokens.isEmpty = false := by
      rw [Bool.eq_false_iff]
      intro none
      rw [List.isEmpty_iff] at none
      apply tokens_ne_nil (head_unwrap text.toList) stuck empty
      rw [none]
      rfl
    rw [reading, verdict, tokens, parse, if_neg (mt List.isEmpty_iff.1 empty), parseSource, stuck]
    cases ParseState.start.run (scan (unwrap text.toList).1).tokens with
    | error t => rfl
    | ok s =>
      cases result : s.result? with
      | none =>
        simp only [result]
        rfl
      | some e =>
        simp only [result, Expr.measure_eq]
        cases e.fits limit with
        | _ => rfl

end Reading

section Text

variable {ls : List String} {text : String} {ts us : List Token}

/-- Lexemes that are joined by spacing are the tokens of the text. -/
lemma scan_joined (joined : Joined ls text) (each : ∀ l ∈ ls, IsLexeme l.toList) :
    ∃ ts, Cut [] 0 text.toList ts ∧ scan (unwrap text.toList).1 = ⟨ts, none⟩ ∧
      ts.map Token.text = ls := by
  obtain ⟨ts, cut, texts⟩ := joined.cut each 0
  have scans := cut.scans
  rw [Scans, List.append_nil, scanFrom_nil, List.append_nil] at scans
  rw [joined.unwrapped each]
  exact ⟨ts, cut, scans, texts⟩

/-- A text that is scanned to its end is listed with the end behind its tokens. -/
lemma tokenize_scan (plain : (unwrap text.toList).1 = text.toList)
    (scanned : scan (unwrap text.toList).1 = ⟨ts, none⟩) :
    tokenize text = .ok (ts.map Token.listed ++ [⟨.eof, "", text.length⟩]) := by
  rw [tokenize_eq_ok_iff, scanned, plain, String.length_toList]
  exact ⟨rfl, rfl⟩

/-- Tokens of the same texts are of the same terminals. -/
lemma map_lexeme_eq {rest rest' front front' : List Char} {position position' : Nat}
    (h : Cut rest position front ts) (h' : Cut rest' position' front' us)
    (same : us.map Token.text = ts.map Token.text) : us.map Token.lexeme = ts.map Token.lexeme := by
  have scanned {ts : List Token} (h : ∀ t ∈ ts, first? t.chars = some (t.terminal, t.chars)) :
      (ts.map Token.text).map (fun l => first? l.toList) = (ts.map Token.lexeme).map some := by
    rw [List.map_map, List.map_map]
    refine List.map_congr_left fun t ht => ?_
    rw [Function.comp_apply, Token.text, String.toList_ofList, h t ht]
    rfl
  refine (List.map_inj_right (f := some) fun _ _ => Option.some.inj).1 ?_
  rw [← scanned h'.first, ← scanned h.first, same]

end Text

/-- Lexemes that are joined by spacing are the tokens of the text, each of its terminal. The tokens of a text
that are joined so are read as those of the text. -/
theorem tokenize_joined (ls : List String) (joinedText : String) (joined : Joined ls joinedText) :
    ((∀ l ∈ ls, ∃ k, Terminal.Matches k l.toList) →
      ∃ ts, tokenize joinedText = .ok (ts ++ [⟨.eof, "", joinedText.length⟩]) ∧
        ts.map ListedToken.text = ls ∧
        ∀ t ∈ ts, ∀ k, Terminal.Matches k t.text.toList →
          t.kind = k.kind ∨ k = .identifier ∧ t.text ∈ ["true", "false", "null"]) ∧
    ∀ text ts n, tokenize text = .ok (ts ++ [⟨.eof, "", n⟩]) → ts.map ListedToken.text = ls →
      (∃ us, tokenize joinedText = .ok (us ++ [⟨.eof, "", joinedText.length⟩]) ∧
        us.map ListedToken.spelling = ts.map ListedToken.spelling) ∧
      ∀ limit, reading joinedText limit = reading text limit := by
  constructor
  · intro terminals
    have each : ∀ l ∈ ls, IsLexeme l.toList := by
      intro l hl
      obtain ⟨k, h⟩ := terminals l hl
      obtain ⟨k', first, -⟩ := first_matches h
      exact ⟨k', first⟩
    obtain ⟨ts, cut, scanned, texts⟩ := scan_joined joined each
    refine ⟨ts.map Token.listed, tokenize_scan (joined.unwrapped each) scanned, ?_, ?_⟩
    · rw [List.map_map]
      exact texts
    · intro listed mem k h
      obtain ⟨t, ht, rfl⟩ := List.mem_map.1 mem
      obtain ⟨k', first, same | keyword⟩ := first_matches h
      · rw [Token.text_listed, Token.text, String.toList_ofList, cut.first t ht] at first
        cases first
        exact .inl (congrArg Terminal.kind same)
      · rw [String.ofList_toList] at keyword
        exact .inr keyword
  · intro text ts n listed same
    obtain ⟨stuck, listing⟩ := tokenize_eq_ok_iff.1 listed
    obtain ⟨rfl, -⟩ := List.append_inj' listing rfl
    -- The tokens of the text are lexemes, and joining them gives tokens with the same lexemes.
    obtain ⟨front, whole, cut⟩ := exists_cut 0 (unwrap text.toList).1
    have each : ∀ l ∈ ls, IsLexeme l.toList := by
      intro l hl
      rw [← same, List.map_map] at hl
      obtain ⟨t, ht, rfl⟩ := List.mem_map.1 hl
      refine ⟨t.terminal, ?_⟩
      rw [Function.comp_apply, Token.text_listed, Token.text, String.toList_ofList]
      exact cut.first t ht
    obtain ⟨us, cut', scanned, texts⟩ := scan_joined joined each
    have lexemes : us.map Token.lexeme = (scan (unwrap text.toList).1).tokens.map Token.lexeme := by
      refine map_lexeme_eq cut cut' ?_
      rw [texts, ← same, List.map_map]
      rfl
    refine ⟨⟨us.map Token.listed, tokenize_scan (joined.unwrapped each) scanned, ?_⟩, fun limit => ?_⟩
    · have spellings := congrArg (List.map fun l => (l.1.kind, String.ofList l.2)) lexemes
      rw [List.map_map, List.map_map] at spellings
      rw [List.map_map, List.map_map]
      exact spellings
    · rw [reading_eq stuck, reading_eq (by rw [scanned]), scanned, verdict_congr lexemes]

/-- A name that starts like a keyword, an operator and a blank in quotes, first without and then with spacing
between them. -/
theorem tokenize_joined_blanks :
    let ls := ["true-x", "!=", "' '"]
    Joined ls "true-x\t!=\r\n\x0c' '" ∧
      (∀ l ∈ ls, ∃ k, Terminal.Matches k l.toList) ∧
      (∃ ts, tokenize "true-x\t!=\r\n\x0c' '" = .ok (ts ++ [⟨.eof, "", 15⟩]) ∧ ts.map ListedToken.text = ls ∧
        ∀ t ∈ ts, t.text = "true-x" → t.kind = .identifier) ∧
      tokenize "true-x!=' '" =
        .ok [⟨.identifier, "true-x", 0⟩, ⟨.operator, "!=", 6⟩, ⟨.string, "' '", 8⟩, ⟨.eof, "", 11⟩] ∧
      (∃ us, tokenize "true-x\t!=\r\n\x0c' '" = .ok (us ++ [⟨.eof, "", 15⟩]) ∧
        us.map ListedToken.spelling = [(.identifier, "true-x"), (.operator, "!="), (.string, "' '")]) ∧
      ∀ limit, reading "true-x\t!=\r\n\x0c' '" limit = reading "true-x!=' '" limit := by
  intro ls
  have tab : Run isSpace "\t".toList := ⟨nofun, List.all_eq_true.1 rfl⟩
  have breaks : Run isSpace "\r\n\x0c".toList := ⟨nofun, List.all_eq_true.1 rfl⟩
  have joined : Joined ls "true-x\t!=\r\n\x0c' '" := .more tab (.more breaks .one)
  have name : Terminal.Matches .identifier "true-x".toList := .identifier rfl (List.all_eq_true.1 rfl)
  have operator : Terminal.Matches (.operator .notEqual) "!=".toList := .operator
  have quoted : Terminal.Matches .string "' '".toList :=
    .string (.single (.plain (by decide) (by decide) .quote))
  have terminals : ∀ l ∈ ls, ∃ k, Terminal.Matches k l.toList := by
    intro l hl
    simp only [ls, List.mem_cons, List.not_mem_nil, or_false] at hl
    rcases hl with rfl | rfl | rfl
    · exact ⟨_, name⟩
    · exact ⟨_, operator⟩
    · exact ⟨_, quoted⟩
  have tokens : (scan (unwrap "true-x!=' '".toList).1).tokens =
      [⟨.identifier, "true-x".toList, 0⟩, ⟨.operator .notEqual, ['!', '='], 6⟩,
        ⟨.string, ['\'', ' ', '\''], 8⟩] := by decide +kernel
  have listed : tokenize "true-x!=' '" =
      .ok [⟨.identifier, "true-x", 0⟩, ⟨.operator, "!=", 6⟩, ⟨.string, "' '", 8⟩, ⟨.eof, "", 11⟩] := by
    refine tokenize_eq_ok_iff.2 ⟨by decide +kernel, ?_⟩
    rw [tokens]
    rfl
  obtain ⟨scanned, respaced⟩ := tokenize_joined ls _ joined
  obtain ⟨ts, found, texts, kinds⟩ := scanned terminals
  obtain ⟨spaced, read⟩ := respaced _ [_, _, _] _ listed rfl
  refine ⟨joined, terminals, ⟨ts, found, texts, fun t ht text => ?_⟩, listed, spaced, read⟩
  rcases kinds t ht .identifier (text ▸ name) with kind | ⟨-, keyword⟩
  · exact kind
  · rw [text] at keyword
    exact absurd keyword (by decide)

end WorkflowExpr
