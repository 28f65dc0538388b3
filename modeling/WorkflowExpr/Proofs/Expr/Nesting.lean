import WorkflowExpr.Proofs.Expr.Ending

/-!
# Closing brackets that are refused

A closing bracket is refused where the innermost open bracket is not its own, and where an operand is still
to come in front of it. In both cases it is reported as unmatched.
-/

namespace WorkflowExpr

/-- The terminals of tokens, the last one first. -/
def backwards (ts : List ListedToken) : List Terminal :=
  (ts.filterMap ListedToken.terminal?).reverse

/-- The characters that close the brackets which are open behind terminals, that of the innermost one first.
The last terminal comes first. -/
def awaitedAfter : List Terminal → List Char
  | [] => []
  | .openParen :: ks => ')' :: awaitedAfter ks
  | .openBracket :: ks => ']' :: awaitedAfter ks
  | .closeParen :: ks => (awaitedAfter ks).tail
  | .closeBracket :: ks => (awaitedAfter ks).tail
  | _ :: ks => awaitedAfter ks

/-- Behind terminals an operand, or a member of one, is still to come. The last terminal comes first. A
parenthesis behind a name opens a call, which may have no arguments. -/
def isUnfinished : List Terminal → Bool
  | [] => true
  | .openParen :: ks => ks.head? != some .identifier
  | .operator _ :: _ => true
  | .not :: _ => true
  | .dot :: _ => true
  | .comma :: _ => true
  | .openBracket :: _ => true
  | _ :: _ => false

/-- Behind an unfinished operand there is no name. -/
lemma head_of_unfinished {ks : List Terminal} (h : isUnfinished ks = true) :
    ks.head? ≠ some .identifier := by
  cases ks with
  | nil => exact nofun
  | cons k ks =>
    rintro ⟨⟩
    cases h

/-- What was read last, by the terminals up to it. -/
inductive Phase.Follows : Phase → List Terminal → Prop where
  | operand {ks} :
    isUnfinished ks = true →
    Follows .operand ks
  | arguments {n ks} :
    Follows (.arguments n) (.openParen :: .identifier :: ks)
  | position {base ks} :
    Follows (.position base) (.openBracket :: ks)
  | star {base ks} :
    Follows (.star base) (.star :: ks)
  | member {base ks} :
    Follows (.member base) (.dot :: ks)
  | name {n ks} :
    Follows (.name n) (.identifier :: ks)
  | done {e ks} :
    isUnfinished ks = false →
    Follows (.done e) ks

/-- The character that closes a bracket which was opened, but is not yet among the frames. -/
def Phase.awaited : Phase → List Char
  | .arguments _ => [')']
  | .position _ => [']']
  | .star _ => [']']
  | _ => []

namespace ParseState

/-- The characters that close the frames of a state. -/
def closings (s : ParseState) : List Char :=
  s.frames.map fun f => f.bracket.closing

/-- A state that terminals lead to, as far as brackets are concerned. -/
structure Reached (s : ParseState) (ks : List Terminal) : Prop where
  brackets : s.phase.awaited ++ s.closings = awaitedAfter ks
  last : s.phase.Follows ks

variable {s s' : ParseState} {c : Char} {e : Expr} {t : Token} {ks : List Terminal}

/-- Reading a token where an operand may start. A parenthesis there opens a group, since it does not stand
behind a name. -/
lemma reached_operand (brackets : s.closings = awaitedAfter ks) (noName : ks.head? ≠ some .identifier)
    (step : s.stepOperand? t = some s') : s'.Reached (t.terminal :: ks) := by
  rw [stepOperand?, Token.literal?] at step
  cases k : t.terminal with
  | identifier =>
    rw [k] at step
    cases step
    exact ⟨brackets, .name⟩
  | openParen =>
    rw [k] at step
    cases step
    exact ⟨congrArg (List.cons ')') brackets, .operand (bne_iff_ne.2 noName)⟩
  | not =>
    rw [k] at step
    cases step
    exact ⟨brackets, .operand rfl⟩
  | number | string | trueWord | falseWord | nullWord =>
    rw [k] at step
    cases step
    exact ⟨brackets, .done rfl⟩
  | _ =>
    rw [k] at step
    cases step

/-- Reading a token behind an operand. A closing bracket is read only if it is that of the innermost frame. -/
lemma reached_after (brackets : s.closings = awaitedAfter ks) (step : s.stepAfter? e t = some s') :
    s'.Reached (t.terminal :: ks) := by
  obtain ⟨p, fs, phase⟩ := s
  rw [stepAfter?] at step
  -- An opening bracket adds the one that closes it, a closing one takes it off, and no other token counts.
  cases k : t.terminal with
  | dot =>
    rw [k] at step
    cases step
    exact ⟨brackets, .member⟩
  | openBracket =>
    rw [k] at step
    cases step
    exact ⟨congrArg (List.cons ']') brackets, .position⟩
  | operator op =>
    rw [k] at step
    cases step
    exact ⟨brackets, .operand rfl⟩
  | comma =>
    rw [k] at step
    dsimp only at step
    split at step
    · cases step
      exact ⟨brackets, .operand rfl⟩
    · cases step
  | closeParen =>
    rw [k] at step
    dsimp only at step
    split at step
    · cases step
      exact ⟨congrArg List.tail brackets, .done rfl⟩
    · cases step
      exact ⟨congrArg List.tail brackets, .done rfl⟩
    · cases step
  | closeBracket =>
    rw [k] at step
    dsimp only at step
    split at step
    · cases step
      exact ⟨congrArg List.tail brackets, .done rfl⟩
    · cases step
  | _ =>
    rw [k] at step
    cases step

namespace Reached

/-- The start is reached without a terminal. -/
lemma start : ParseState.start.Reached [] :=
  ⟨rfl, .operand rfl⟩

/-- A step opens and closes the brackets that its terminal stands for. -/
lemma step (h : s.Reached ks) (step : s.step? t = some s') : s'.Reached (t.terminal :: ks) := by
  obtain ⟨p, fs, phase⟩ := s
  obtain ⟨brackets, last⟩ := h
  cases last with
  | operand unfinished => exact reached_operand brackets (head_of_unfinished unfinished) step
  | @arguments n =>
    -- The call ends without arguments, or its first one starts inside the bracket.
    simp only [step?] at step
    split at step
    · next close =>
      cases step
      rw [close]
      exact ⟨congrArg List.tail brackets, .done rfl⟩
    · exact reached_operand (s := .enter ⟨p, fs, .arguments n⟩ (.call n [])) brackets (by rintro ⟨⟩) step
  | @position base =>
    simp only [step?] at step
    split at step
    · next star =>
      cases step
      rw [star]
      exact ⟨brackets, .star⟩
    · exact reached_operand (s := .enter ⟨p, fs, .position base⟩ (.index base)) brackets (by rintro ⟨⟩) step
  | star =>
    simp only [step?] at step
    split at step
    · next close =>
      cases step
      rw [close]
      exact ⟨congrArg List.tail brackets, .done rfl⟩
    · cases step
  | member =>
    rw [step?] at step
    cases k : t.terminal with
    | identifier =>
      rw [k] at step
      cases step
      exact ⟨brackets, .done rfl⟩
    | star =>
      rw [k] at step
      cases step
      exact ⟨brackets, .done rfl⟩
    | _ =>
      rw [k] at step
      cases step
  | name =>
    simp only [step?] at step
    split at step
    · next opening =>
      cases step
      rw [opening]
      exact ⟨congrArg (List.cons ')') brackets, .arguments⟩
    · exact reached_after brackets step
  | done => exact reached_after brackets step

/-- What terminals stand for is kept by a whole run. -/
lemma run {ts : List Token} (h : s.Reached ks) (run : s.run ts = .ok s') :
    s'.Reached ((ts.map Token.terminal).reverse ++ ks) := by
  induction ts generalizing s ks with
  | nil =>
    cases run
    exact h
  | cons t ts ih =>
    rw [ParseState.run] at run
    split at run
    · next next step =>
      rw [List.map_cons, List.reverse_cons, List.append_assoc]
      exact ih (h.step step) run
    · cases run

/-- A closing bracket may come next exactly if it is that of the innermost bracket and no operand is still to
come. -/
lemma closable_iff (h : s.Reached ks) :
    s.Closable c ↔ (awaitedAfter ks).head? = some c ∧ isUnfinished ks = false := by
  obtain ⟨p, fs, phase⟩ := s
  obtain ⟨brackets, last⟩ := h
  rw [← closer_eq_some_iff]
  -- What may be closed follows from the phase alone, which the terminals determine.
  cases last with
  | operand unfinished =>
    rw [unfinished]
    exact ⟨nofun, nofun⟩
  | arguments => exact (and_iff_left rfl).symm
  | position => exact ⟨nofun, nofun⟩
  | star =>
    rw [← brackets]
    exact (and_iff_left rfl).symm
  | member => exact ⟨nofun, nofun⟩
  | name =>
    rw [closer_after rfl, ← brackets, ← List.head?_map]
    exact (and_iff_left rfl).symm
  | done finished =>
    rw [closer_after rfl, ← brackets, ← List.head?_map]
    exact (and_iff_left finished).symm

end Reached

end ParseState

/-- The terminals of listed tokens are those of the tokens, the last one first. -/
lemma backwards_listed {ts : List Token} (spelt : ∀ t ∈ ts, t.Spelt) :
    backwards (ts.map Token.listed) = (ts.map Token.terminal).reverse := by
  have terminals : ∀ t ∈ ts, (ListedToken.terminal? ∘ Token.listed) t = (some ∘ Token.terminal) t := spelt
  rw [backwards, List.filterMap_map, List.filterMap_congr terminals, List.filterMap_eq_map]

section Source

variable {source : List Char} {c : Char} {w : Word} {s : ParseState} {t : Token} {ts us : List Token}

/-- What is spelt like a closing bracket is one. -/
lemma terminal_closing (closing : Closing c w) (ht : t ∈ (scan source).tokens)
    (text : t.text = String.singleton c) : t.terminal = w.terminal := by
  obtain ⟨front, -, cut⟩ := exists_cut 0 source
  have first := cut.first t ht
  have chars : t.chars = [c] := String.ofList_injective text
  rw [chars] at first
  cases closing with
  | paren => exact congrArg Prod.fst (Option.some.inj (first.symm.trans rfl))
  | bracket => exact congrArg Prod.fst (Option.some.inj (first.symm.trans rfl))

/-- A closing bracket that is refused is called unmatched. -/
lemma refusedReason_closing (closing : Closing c w) (ht : t.terminal = w.terminal) :
    refusedReason t = .unmatchedClosing t.text := by
  rw [refusedReason, ht]
  cases closing with
  | _ => rfl

/-- A closing bracket is refused behind tokens that are read if it is not that of the innermost bracket, or if
an operand is still to come. -/
lemma step_closing_iff (closing : Closing c w) (tokens : (scan source).tokens = ts ++ t :: us)
    (ht : t.terminal = w.terminal) (run : ParseState.start.run ts = .ok s) :
    let before := backwards (tokensBefore source t.position)
    s.step? t = none ↔ (awaitedAfter before).head? ≠ some c ∨ isUnfinished before = true := by
  intro before
  have reached := ParseState.Reached.start.run run
  rw [List.append_nil, ← backwards_listed (spelt_front tokens), ← tokensBefore_position tokens] at reached
  rw [ParseState.step_closing_eq_none_iff closing ht, reached.closable_iff, not_and_or, Bool.not_eq_false]

/-- The first refused token is a closing bracket exactly if those in front of it start an expression, and it may
not come next. -/
lemma run_closing_iff (closing : Closing c w) (head : ∀ c ∈ source.head?, Text.isBlank c = false) (p : Nat) :
    (∃ t, ParseState.start.run (scan source).tokens = .error t ∧ t.position = p ∧
        t.text = String.singleton c) ↔
      ⟨.punctuation, String.singleton c, p⟩ ∈ (scan source).tokens.map Token.listed ∧
      (∃ us, IsExpression (tokensBefore source p ++ us)) ∧
      ((awaitedAfter (backwards (tokensBefore source p))).head? ≠ some c ∨
        isUnfinished (backwards (tokensBefore source p)) = true) := by
  constructor
  · rintro ⟨t, run, rfl, text⟩
    obtain ⟨scanned, viable, -⟩ := viable_refused head run
    obtain ⟨ts, us, s, tokens, read, refused⟩ := ParseState.run_eq_error run
    have terminal := terminal_closing closing scanned text
    refine ⟨List.mem_map.2 ⟨t, scanned, ?_⟩, viable, (step_closing_iff closing tokens terminal read).1 refused⟩
    rw [Token.listed, terminal, text]
    cases closing with
    | _ => rfl
  · rintro ⟨listed, ⟨vs, expression⟩, early⟩
    obtain ⟨t, scanned, same⟩ := List.mem_map.1 listed
    obtain rfl : t.position = p := congrArg ListedToken.position same
    have text : t.text = String.singleton c := congrArg ListedToken.text same
    have terminal := terminal_closing closing scanned text
    obtain ⟨ts, us, tokens⟩ := List.append_of_mem scanned
    obtain ⟨s', e, whole, -⟩ := expression.run
    rw [tokensBefore_position tokens, List.map_append, map_token_listed (spelt_front tokens)] at whole
    obtain ⟨s, read, -⟩ := ParseState.run_append_ok whole
    -- The tokens in front are read, and so the bracket is the first that is refused.
    have refused := (step_closing_iff closing tokens terminal read).2 early
    refine ⟨t, ?_, rfl, text⟩
    rw [tokens, ParseState.run_append read, ParseState.run, refused]

end Source

section Text

variable {text : String} {limit : Int} {fault : SyntaxFault}

/-- A fault that is about a token is that of the refused one. -/
lemma parse_token {token : String} (failed : parse text limit = .error fault)
    (told : fault.reason.token? = some token) :
    ∃ t, ParseState.start.run (scan (unwrap text.toList).1).tokens = .error t ∧ t.text = token ∧
      fault = ⟨refusedReason t, String.ofList (unwrap text.toList).1, t.position⟩ := by
  rcases parse_error_cases failed with ⟨-, rfl⟩ | ⟨-, read⟩ | ⟨e, -, rfl⟩
  · cases told
  · rcases parseSource_fault read with ⟨t, run, rfl⟩ | ⟨s, -, ⟨rest, -, rfl⟩ | ⟨-, -, rfl⟩⟩
    · exact ⟨t, run, Option.some.inj ((refusedReason_token t).symm.trans told), rfl⟩
    · cases (stuckReason_token rest).symm.trans told
    · cases (endReason_token s).symm.trans told
  · cases told

/-- The fault of a text with a refused token is that of this token. -/
lemma parse_of_refused {t : Token}
    (run : ParseState.start.run (scan (unwrap text.toList).1).tokens = .error t) (limit : Int) :
    parse text limit = .error ⟨refusedReason t, String.ofList (unwrap text.toList).1, t.position⟩ := by
  refine parse_of_error ?_ ?_
  · intro empty
    rw [empty, scan, scanFrom_nil] at run
    cases run
  · rw [parseSource, run]

end Text

/-- A closing bracket is reported as unmatched exactly if the tokens in front of it start an expression, and it
is not the one that closes the innermost bracket there, or an operand is still to come. A closing bracket is
never reported as an unexpected token. -/
theorem parse_unmatched_closing (text : String) (limit : Int) (c : Char) (bracket : c = ')' ∨ c = ']') :
    let source := (unwrap text.toList).1
    (∀ p, (∃ fault, parse text limit = .error fault ∧ fault.position = p ∧
        fault.reason.text = "Unmatched closing '" ++ String.singleton c ++ "'") ↔
      ⟨.punctuation, String.singleton c, p⟩ ∈ (scan source).tokens.map Token.listed ∧
      (∃ us, IsExpression (tokensBefore source p ++ us)) ∧
      ((awaitedAfter (backwards (tokensBefore source p))).head? ≠ some c ∨
        isUnfinished (backwards (tokensBefore source p)) = true)) ∧
    ∀ fault, parse text limit = .error fault →
      fault.reason.text ≠ "Unexpected token '" ++ String.singleton c ++ "'" := by
  intro source
  obtain ⟨w, closing⟩ : ∃ w, Closing c w := by
    rcases bracket with rfl | rfl
    · exact ⟨_, .paren⟩
    · exact ⟨_, .bracket⟩
  have head : ∀ c ∈ source.head?, Text.isBlank c = false := head_unwrap text.toList
  -- A closing bracket is refused for this reason only, whatever stands in front of it.
  have reason {t : Token} (run : ParseState.start.run (scan source).tokens = .error t)
      (text : t.text = String.singleton c) : refusedReason t = .unmatchedClosing (String.singleton c) := by
    obtain ⟨scanned, -, -⟩ := viable_refused head run
    rw [refusedReason_closing closing (terminal_closing closing scanned text), text]
  constructor
  · intro p
    rw [← run_closing_iff closing head]
    constructor
    · rintro ⟨fault, failed, rfl, reported⟩
      have told := congrArg SyntaxReason.token? (SyntaxReason.eq_unmatchedClosing reported)
      obtain ⟨t, run, spelling, rfl⟩ := parse_token failed told
      exact ⟨t, run, rfl, spelling⟩
    · rintro ⟨t, run, rfl, spelling⟩
      exact ⟨_, parse_of_refused run limit, rfl, congrArg SyntaxReason.text (reason run spelling)⟩
  · intro fault failed reported
    have unexpected := SyntaxReason.eq_unexpectedToken reported
    obtain ⟨t, run, spelling, rfl⟩ := parse_token failed (congrArg SyntaxReason.token? unexpected)
    cases (reason run spelling).symm.trans unexpected

/-- The call inside has to be closed first. -/
theorem parse_unmatched_closing_call :
    let before : List ListedToken := [⟨.identifier, "f", 0⟩, ⟨.punctuation, "(", 1⟩, ⟨.identifier, "a", 2⟩]
    (']' = ')' ∨ ']' = ']') ∧
      parse "f(a]" 64 = .error ⟨.unmatchedClosing "]", "f(a]", 3⟩ ∧
      tokensBefore (unwrap "f(a]".toList).1 3 = before ∧
      (∃ us, IsExpression (before ++ us)) ∧ awaitedAfter (backwards before) = [')'] := by
  intro before
  have tokens : (scan (unwrap "f(a]".toList).1).tokens =
      [⟨.identifier, ['f'], 0⟩, ⟨.openParen, ['('], 1⟩, ⟨.identifier, ['a'], 2⟩,
        ⟨.closeBracket, [']'], 3⟩] := by decide +kernel
  have refused : ParseState.start.run (scan (unwrap "f(a]".toList).1).tokens =
      .error ⟨.closeBracket, [']'], 3⟩ := by
    rw [tokens]
    rfl
  have failed : parse "f(a]" 64 = .error ⟨.unmatchedClosing "]", "f(a]", 3⟩ := parse_of_refused refused 64
  have front : tokensBefore (unwrap "f(a]".toList).1 3 = before := by
    rw [tokensBefore, tokens]
    rfl
  obtain ⟨reported, -⟩ := parse_unmatched_closing "f(a]" 64 ']' (.inr rfl)
  obtain ⟨-, viable, -⟩ := (reported 3).1 ⟨_, failed, rfl, rfl⟩
  rw [front] at viable
  exact ⟨.inr rfl, failed, front, viable, rfl⟩

/-- Also a bracket that would close the innermost one is reported as unmatched, if it comes too early. -/
theorem parse_early_closing :
    let before : List ListedToken := [⟨.punctuation, "(", 0⟩]
    parse "()" 64 = .error ⟨.unmatchedClosing ")", "()", 1⟩ ∧
      (SyntaxReason.unmatchedClosing ")").text = "Unmatched closing ')'" ∧
      tokensBefore (unwrap "()".toList).1 1 = before ∧ awaitedAfter (backwards before) = [')'] := by
  intro before
  have tokens : (scan (unwrap "()".toList).1).tokens =
      [⟨.openParen, ['('], 0⟩, ⟨.closeParen, [')'], 1⟩] := by decide +kernel
  have refused : ParseState.start.run (scan (unwrap "()".toList).1).tokens =
      .error ⟨.closeParen, [')'], 1⟩ := by
    rw [tokens]
    rfl
  refine ⟨parse_of_refused refused 64, rfl, ?_, rfl⟩
  rw [tokensBefore, tokens]
  rfl

end WorkflowExpr
