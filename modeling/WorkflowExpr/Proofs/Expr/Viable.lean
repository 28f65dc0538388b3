import WorkflowExpr.Proofs.Expr.Precedence
import WorkflowExpr.Proofs.Expr.Tiling

/-!
# Starts of expressions

From every state of the parser some words lead to an expression, so that whatever was read without a
refusal is the start of an expression. A refused token ends this: no expression starts with the tokens up
to it, wherever they stand.
-/

namespace WorkflowExpr

/-- The word that closes a bracket. -/
def Bracket.closer : Bracket → Word
  | .group => .closeParen
  | .call _ _ => .closeParen
  | .index _ => .closeBracket

/-- Words that lead to an operand from what was read last. There is always one at least, so that the text
goes on behind a space. -/
def Phase.completion : Phase → List Word
  | .operand => [.name ⟨"a", .letter (c := 'a') rfl⟩]
  | .arguments _ => [.closeParen]
  | .position _ => [.star, .closeBracket]
  | .star _ => [.closeBracket]
  | .member _ => [.star]
  | .name _ => [.dot, .star]
  | .done _ => [.dot, .star]

namespace ParseState

/-- Words that complete an expression: an operand, and then the end of each open bracket. -/
def completion (s : ParseState) : List Word :=
  s.phase.completion ++ s.frames.map fun f => f.bracket.closer

/-- The word that closes the innermost bracket is read behind an operand. -/
lemma step_closer {s : ParseState} {f : Frame} {fs : List Frame} {e : Expr} {t : Token}
    (hs : s.operand? = some e) (hf : s.frames = f :: fs)
    (ht : t.terminal = f.bracket.closer.terminal) :
    ∃ e', s.step? t = some ⟨f.outside, fs, .done e'⟩ := by
  obtain ⟨bracket, outside⟩ := f
  have noCall : t.terminal ≠ .openParen := by
    rw [ht]
    cases bracket <;> exact nofun
  rw [step_after hs noCall, stepAfter?, ht, hf]
  cases bracket with
  | group => exact ⟨_, rfl⟩
  | call => exact ⟨_, rfl⟩
  | index => exact ⟨_, rfl⟩

/-- After an operand the ends of the open brackets give an expression. -/
lemma run_closers {s : ParseState} {fs : List Frame} {e : Expr} {ts : List Token}
    (hs : s.operand? = some e) (hf : s.frames = fs)
    (ht : ts.map Token.terminal = fs.map fun f => f.bracket.closer.terminal) :
    ∃ s' e', s.run ts = .ok s' ∧ s'.result? = some e' := by
  induction fs generalizing s e ts with
  | nil =>
    obtain rfl := List.map_eq_nil_iff.1 ht
    refine ⟨s, s.pending.close e, rfl, ?_⟩
    rw [result?, hf, hs]
    rfl
  | cons f fs ih =>
    obtain ⟨t, ts, rfl, hd, tl⟩ := List.map_eq_cons_iff.1 ht
    obtain ⟨e', step⟩ := step_closer hs hf hd
    rw [run_cons step]
    exact ih (e := e') rfl rfl tl

/-- What completes an operand is read, and the brackets stay open. -/
lemma run_operand {s : ParseState} {ts : List Token}
    (ht : ts.map Token.terminal = s.phase.completion.map Word.terminal) :
    ∃ s' e, s.run ts = .ok s' ∧ s'.operand? = some e ∧ s'.frames = s.frames := by
  have single {k : Terminal} (h : ts.map Token.terminal = [k]) :
      ∃ t, ts = [t] ∧ t.terminal = k := List.map_eq_singleton_iff.1 h
  have pair {k k' : Terminal} (h : ts.map Token.terminal = [k, k']) :
      ∃ t u, ts = [t, u] ∧ t.terminal = k ∧ u.terminal = k' := by
    obtain ⟨t, _, rfl, first, tail⟩ := List.map_eq_cons_iff.1 h
    obtain ⟨u, rfl, second⟩ := List.map_eq_singleton_iff.1 tail
    exact ⟨t, u, rfl, first, second⟩
  -- After an operand a point and a star make it a longer one.
  have dotStar {e : Expr} (hs : s.operand? = some e)
      (h : ts.map Token.terminal = [.dot, .star]) :
      ∃ s' e, s.run ts = .ok s' ∧ s'.operand? = some e ∧ s'.frames = s.frames := by
    obtain ⟨t, u, rfl, dot, star⟩ := pair h
    refine ⟨s.finish (.wildcard e), _, ?_, rfl, rfl⟩
    rw [run_cons (step_dot hs dot), run_cons (step_memberStar star), run]
  obtain ⟨p, fs, phase⟩ := s
  cases phase with
  | operand =>
    obtain ⟨t, rfl, name⟩ := single ht
    have step : (ParseState.mk p fs .operand).step? t = some ⟨p, fs, .name t.text⟩ := by
      rw [step?, stepOperand?, name]
      rfl
    exact ⟨_, _, run_cons step, rfl, rfl⟩
  | arguments n =>
    obtain ⟨t, rfl, close⟩ := single ht
    have step : (ParseState.mk p fs (.arguments n)).step? t =
        some ⟨p, fs, .done (.call n [])⟩ := if_pos close
    exact ⟨_, _, run_cons step, rfl, rfl⟩
  | position base =>
    obtain ⟨t, u, rfl, star, close⟩ := pair ht
    have first := @step_positionStar ⟨p, fs, .position base⟩ base _ star
    have second := @step_starBracket ⟨p, fs, .star base⟩ base _ close
    refine ⟨⟨p, fs, .done (.wildcard base)⟩, _, ?_, rfl, rfl⟩
    rw [run_cons first, run_cons second]
    rfl
  | star base =>
    obtain ⟨t, rfl, close⟩ := single ht
    have step := @step_starBracket ⟨p, fs, .star base⟩ base _ close
    exact ⟨_, _, run_cons step, rfl, rfl⟩
  | member base =>
    obtain ⟨t, rfl, star⟩ := single ht
    have step := @step_memberStar ⟨p, fs, .member base⟩ base _ star
    exact ⟨_, _, run_cons step, rfl, rfl⟩
  | name n => exact dotStar rfl ht
  | done e => exact dotStar rfl ht

/-- From every state the words that complete an expression are read, and an expression results. -/
theorem run_completion (s : ParseState) {ts : List Token}
    (ht : ts.map Token.terminal = s.completion.map Word.terminal) :
    ∃ s' e, s.run ts = .ok s' ∧ s'.result? = some e := by
  rw [completion, List.map_append, List.map_map] at ht
  obtain ⟨us, vs, rfl, operand, closers⟩ := List.map_eq_append_iff.1 ht
  obtain ⟨s', e, run, hs, hf⟩ := run_operand operand
  rw [run_append run]
  exact run_closers hs hf closers

/-- Where a token is refused, the tokens before it are not. -/
lemma run_eq_error {s : ParseState} {ts : List Token} {t : Token} (h : s.run ts = .error t) :
    ∃ us vs s', ts = us ++ t :: vs ∧ s.run us = .ok s' ∧ s'.step? t = none := by
  induction ts generalizing s with
  | nil => cases h
  | cons u ts ih =>
    rw [run] at h
    split at h
    · next s' step =>
      obtain ⟨us, vs, last, rfl, run, refused⟩ := ih h
      exact ⟨u :: us, vs, last, rfl, (run_cons step).trans run, refused⟩
    · next refused =>
      cases h
      exact ⟨[], ts, s, rfl, rfl, refused⟩

/-- A run over tokens in two parts is a run over the first part and then one over the second. -/
lemma run_append_ok {s s' : ParseState} {ts us : List Token} (h : s.run (ts ++ us) = .ok s') :
    ∃ mid, s.run ts = .ok mid ∧ mid.run us = .ok s' := by
  induction ts generalizing s with
  | nil => exact ⟨s, rfl, h⟩
  | cons t ts ih =>
    rw [List.cons_append, run] at h
    split at h
    · next mid step =>
      rw [run_cons step]
      exact ih h
    · cases h

end ParseState

/-- What a token is apart from its place. -/
def Token.lexeme (t : Token) : Terminal × List Char :=
  (t.terminal, t.chars)

/-- Where tokens stand does not count for how they are read or which one is refused. -/
lemma ParseState.run_congr {s : ParseState} {ts us : List Token}
    (same : us.map Token.lexeme = ts.map Token.lexeme) :
    (s.run us).mapError Token.lexeme = (s.run ts).mapError Token.lexeme := by
  induction us generalizing s ts with
  | nil =>
    obtain rfl := List.map_eq_nil_iff.1 same.symm
    rfl
  | cons u us ih =>
    obtain ⟨t, ts, rfl, head, tail⟩ := List.map_eq_cons_iff.1 same.symm
    have step : s.step? u = s.step? t := by
      obtain ⟨k, chars, position⟩ := t
      obtain ⟨k', chars', position'⟩ := u
      cases head
      rfl
    rw [ParseState.run, ParseState.run, step]
    cases s.step? t with
    | none => exact congrArg Except.error head.symm
    | some next => exact ih tail.symm

/-- What a token is, wherever it stands. -/
def ListedToken.spelling (t : ListedToken) : TokenKind × String :=
  (t.kind, t.text)

/-- Where listed tokens stand does not count for how they are read. -/
lemma ParseState.run_spelling {s s' : ParseState} {ts us : List ListedToken}
    (same : us.map ListedToken.spelling = ts.map ListedToken.spelling)
    (h : s.run (us.map ListedToken.token) = .ok s') : s.run (ts.map ListedToken.token) = .ok s' := by
  have lexemes : (us.map ListedToken.token).map Token.lexeme = (ts.map ListedToken.token).map Token.lexeme := by
    have spelt := congrArg (List.map fun l => (ListedToken.mk l.1 l.2 0).token.lexeme) same
    rw [List.map_map, List.map_map] at spelt
    rw [List.map_map, List.map_map]
    exact spelt
  have run := run_congr (s := s) lexemes
  rw [h] at run
  cases read : s.run (ts.map ListedToken.token) with
  | ok =>
    rw [read] at run
    cases run
    rfl
  | error =>
    rw [read] at run
    cases run

/-- Tokens that are listed for a text that is read as an expression. -/
def IsExpression (ts : List ListedToken) : Prop :=
  ∃ text limit parsed n, parse text limit = .ok parsed ∧ tokenize text = .ok (ts ++ [⟨.eof, "", n⟩])

/-- Tokens that no expression starts with, wherever they stand. -/
def Hopeless (ts : List ListedToken) : Prop :=
  ∀ us vs, us.map ListedToken.spelling = ts.map ListedToken.spelling → ¬ IsExpression (us ++ vs)

/-- Tokens that are no expression, wherever they stand. -/
def Incomplete (ts : List ListedToken) : Prop :=
  ∀ us, us.map ListedToken.spelling = ts.map ListedToken.spelling → ¬ IsExpression us

/-- The tokens of an expression are read to their end, and an expression results. -/
lemma IsExpression.run {ts : List ListedToken} (h : IsExpression ts) :
    ∃ s e, ParseState.start.run (ts.map ListedToken.token) = .ok s ∧ s.result? = some e := by
  obtain ⟨text, limit, parsed, n, hp, ht⟩ := h
  obtain ⟨-, hs, -⟩ := parse_eq_ok_iff.1 hp
  obtain ⟨-, d⟩ := parseSource_eq_ok_iff.1 hs
  obtain ⟨-, listing⟩ := tokenize_eq_ok_iff.1 ht
  obtain ⟨rfl, -⟩ := List.append_inj' listing rfl
  obtain ⟨s, run, result⟩ := d.run_eq
  exact ⟨s, _, run, result⟩

/-- A text that is left alone by unwrapping is an expression if its tokens lead to one. -/
lemma isExpression_scan {source : List Char} {s : ParseState} {e : Expr}
    (plain : (unwrap source).1 = source) (stuck : (scan source).stuck = none)
    (run : ParseState.start.run (scan source).tokens = .ok s) (result : s.result? = some e) :
    IsExpression ((scan source).tokens.map Token.listed) := by
  have plain' : (unwrap (String.ofList source).toList).1 = source := by
    rw [String.toList_ofList, plain]
  have d := (run_result_iff (scan_spelt source)).1 ⟨s, run, result⟩
  refine ⟨String.ofList source, e.depth, ⟨String.ofList source, e⟩, source.length, ?_, ?_⟩
  · refine parse_eq_ok_iff.2 ?_
    rw [plain']
    exact ⟨rfl, parseSource_eq_ok_iff.2 ⟨stuck, d⟩, Expr.fits_of_le (Int.le_refl _)⟩
  · refine tokenize_eq_ok_iff.2 ?_
    rw [plain']
    exact ⟨stuck, rfl⟩

/-- The listing of words shows their terminals. -/
lemma terminals_listing (position : Nat) (ws : List Word) :
    (listing position ws).map ListedToken.terminal? = ws.map fun w => some w.terminal := by
  induction ws generalizing position with
  | nil => rfl
  | cons w ws ih =>
    have head : (ListedToken.mk w.terminal.kind w.text position).terminal? = some w.terminal :=
      w.is_terminal position
    rw [listing, List.map_cons, List.map_cons, head, ih]

/-- The text of words is scanned into tokens of their terminals. -/
lemma terminals_spaced (position : Nat) (ws : List Word) :
    (scanFrom position (spaced ws)).tokens.map Token.terminal = ws.map Word.terminal := by
  have listed := congrArg (List.map ListedToken.terminal?) (scanFrom_spaced ws position).2
  have spelt : (scanFrom position (spaced ws)).tokens.map (ListedToken.terminal? ∘ Token.listed) =
      (scanFrom position (spaced ws)).tokens.map fun t => some t.terminal :=
    List.map_congr_left fun t ht => scanFrom_spelt position (spaced ws) t ht
  rw [List.map_map, spelt, terminals_listing] at listed
  refine (List.map_inj_right (f := some) fun _ _ => Option.some.inj).1 ?_
  rw [List.map_map, List.map_map]
  exact listed

/-- The text behind which words are written, with a space between them, is scanned as before. -/
lemma exists_completed {rest front : List Char} {ts : List Token} (cut : Cut rest 0 front ts)
    (head : ∀ c ∈ (front ++ rest).head?, Text.isBlank c = false) (w : Word) (ws : List Word) :
    ∃ source position, (unwrap source).1 = source ∧
      scan source = ⟨ts ++ (scanFrom position (spaced (w :: ws))).tokens, none⟩ := by
  have stuck (position : Nat) : (scanFrom position (spaced (w :: ws))).stuck = none :=
    (scanFrom_spaced (w :: ws) position).1
  have last : ∀ c ∈ (spaced (w :: ws)).getLast?, Text.isBlank c = false :=
    fun c hc => (firm_last_spaced (w :: ws) c hc).1
  cases front with
  | nil =>
    -- Nothing was scanned, and the words make up the text.
    have none : ts = [] := by
      have nothing := congrArg Scan.tokens (cut.ends .nil).scans
      rw [List.append_nil, scanFrom_nil] at nothing
      exact (List.append_eq_nil_iff.1 nothing.symm).1
    refine ⟨spaced (w :: ws), 0, ?_, ?_⟩
    · rw [unwrap_eq_self (firm_head_spaced _) last]
    · rw [none, scan, List.nil_append, ← stuck 0]
  | cons c front =>
    refine ⟨(c :: front) ++ ' ' :: spaced (w :: ws), 0 + (c :: front).length + 1, ?_, ?_⟩
    · rw [unwrap_eq_self]
      · rintro _ ⟨⟩
        refine ⟨head c rfl, ?_⟩
        rcases cut.head c rfl with space | firm
        · cases (Lexeme.isBlank_space space).symm.trans (head c rfl)
        · exact firm.2
      · have whole := List.getLast?_eq_some_getLast (spaced_ne_nil w ws)
        rw [List.getLast?_append, List.getLast?_cons, whole, Option.getD_some, Option.some_or,
          ← whole]
        exact last
    · have whole := (cut.ends (.space (spaced (w :: ws)))).scans
      rw [Scans, scanFrom_space rfl, stuck] at whole
      exact whole

/-- Words that lead from what was read to an expression can be written behind it. -/
theorem expression_of_words {rest front : List Char} {ts : List Token} {s : ParseState} {w : Word}
    {ws : List Word} (cut : Cut rest 0 front ts)
    (head : ∀ c ∈ (front ++ rest).head?, Text.isBlank c = false) (run : ParseState.start.run ts = .ok s)
    (leads : ∀ us : List Token, us.map Token.terminal = (w :: ws).map Word.terminal →
      ∃ s' e, s.run us = .ok s' ∧ s'.result? = some e) :
    ∃ position, IsExpression (ts.map Token.listed ++ listing position (w :: ws)) := by
  obtain ⟨source, position, plain, scanned⟩ := exists_completed cut head w ws
  obtain ⟨s', e, last, result⟩ := leads _ (terminals_spaced position (w :: ws))
  have whole := isExpression_scan (s := s') (e := e) plain (by rw [scanned])
    (by rw [scanned, ParseState.run_append run, last]) result
  rw [scanned, List.map_append, (scanFrom_spaced (w :: ws) position).2] at whole
  exact ⟨position, whole⟩

/-- What is read without a refusal is the start of an expression. -/
theorem exists_expression {rest front : List Char} {ts : List Token} {s : ParseState}
    (cut : Cut rest 0 front ts) (head : ∀ c ∈ (front ++ rest).head?, Text.isBlank c = false)
    (run : ParseState.start.run ts = .ok s) :
    ∃ us, IsExpression (ts.map Token.listed ++ us) := by
  obtain ⟨w, ws, words⟩ : ∃ w ws, s.completion = w :: ws := by
    obtain ⟨p, fs, phase⟩ := s
    cases phase <;> exact ⟨_, _, rfl⟩
  obtain ⟨position, whole⟩ := expression_of_words cut head run fun us h => s.run_completion (words ▸ h)
  exact ⟨_, whole⟩

/-- No expression starts with tokens of which the last one is refused. -/
theorem hopeless_refused {ts : List Token} {t : Token} {s : ParseState}
    (spelt : ∀ u ∈ ts ++ [t], u.Spelt) (run : ParseState.start.run ts = .ok s)
    (refused : s.step? t = none) : Hopeless ((ts ++ [t]).map Token.listed) := by
  intro us vs same h
  obtain ⟨s', _, whole, -⟩ := h.run
  rw [List.map_append] at whole
  obtain ⟨mid, front, -⟩ := ParseState.run_append_ok whole
  have again := ParseState.run_spelling same front
  rw [map_token_listed spelt, ParseState.run_append run, ParseState.run, refused] at again
  cases again

end WorkflowExpr
