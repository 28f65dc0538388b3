import WorkflowExpr.Proofs.Expr.Fault

/-!
# Texts that end too early

Where a text ends too early, the bracket that is missing is the one that may be closed there: with its
closing bracket the tokens go on to an expression, and with the other one they do not. If no bracket may be
closed, none is reported.
-/

namespace WorkflowExpr

/-- A character that closes brackets, and the word for it. -/
inductive Closing : Char → Word → Prop where
  | paren :
    Closing ')' .closeParen
  | bracket :
    Closing ']' .closeBracket

/-- The character that closes a bracket. -/
def Bracket.closing : Bracket → Char
  | .group => ')'
  | .call _ _ => ')'
  | .index _ => ']'

/-- The closing character of a bracket goes with the word that closes it. -/
lemma Bracket.closing_closer (b : Bracket) : Closing b.closing b.closer := by
  cases b with
  | group => exact .paren
  | call => exact .paren
  | index => exact .bracket

/-- One word goes with a closing character. -/
lemma Closing.unique {c : Char} {w w' : Word} (h : Closing c w) (h' : Closing c w') : w = w' := by
  cases h with
  | paren => cases h' with | paren => rfl
  | bracket => cases h' with | bracket => rfl

/-- Tokens that some expression starts with, wherever they stand. -/
def Viable (ts : List ListedToken) : Prop :=
  ∃ us vs, us.map ListedToken.spelling = ts.map ListedToken.spelling ∧ IsExpression (us ++ vs)

/-- Tokens without hope start no expression. -/
lemma Hopeless.not_viable {ts : List ListedToken} (h : Hopeless ts) : ¬ Viable ts := by
  rintro ⟨us, vs, same, expression⟩
  exact h us vs same expression

namespace ParseState

/-- A closing bracket may come next: that of a call without arguments, that behind a star, or after an
operand that of the innermost bracket. -/
inductive Closable : ParseState → Char → Prop where
  | arguments {p fs n} :
    Closable ⟨p, fs, .arguments n⟩ ')'
  | star {p fs base} :
    Closable ⟨p, fs, .star base⟩ ']'
  | innermost {s e f fs} :
    s.operand? = some e →
    s.frames = f :: fs →
    Closable s f.bracket.closing

variable {s s' : ParseState} {c : Char} {e : Expr} {w : Word} {t : Token}

/-- After an operand the innermost bracket may be closed. -/
lemma closer_after (hs : s.operand? = some e) :
    s.closer? = s.frames.head?.map fun f => f.bracket.closing := by
  obtain ⟨p, fs, phase⟩ := s
  cases fs with
  | nil =>
    cases phase with
    | name => rfl
    | done => rfl
    | _ => cases hs
  | cons f fs =>
    obtain ⟨bracket, outside⟩ := f
    cases bracket with
    | _ =>
      cases phase with
      | name => rfl
      | done => rfl
      | _ => cases hs

/-- The bracket that a state reports as open is the one that may be closed next. -/
lemma closer_eq_some_iff : s.closer? = some c ↔ s.Closable c := by
  constructor
  · intro h
    have innermost {e : Expr} (hs : s.operand? = some e) : s.Closable c := by
      rw [closer_after hs, Option.map_eq_some_iff] at h
      obtain ⟨f, first, rfl⟩ := h
      obtain ⟨fs, frames⟩ := List.head?_eq_some_iff.1 first
      exact .innermost hs frames
    obtain ⟨p, fs, phase⟩ := s
    cases phase with
    | operand => cases h
    | arguments =>
      cases h
      exact .arguments
    | position => cases h
    | star =>
      cases h
      exact .star
    | member => cases h
    | name => exact innermost rfl
    | done => exact innermost rfl
  · intro h
    cases h with
    | arguments => rfl
    | star => rfl
    | innermost hs frames =>
      rw [closer_after hs, frames]
      rfl

/-- What may be closed next is closed by a word. -/
lemma Closable.closing (h : s.Closable c) : ∃ w, Closing c w := by
  cases h with
  | arguments => exact ⟨_, .paren⟩
  | star => exact ⟨_, .bracket⟩
  | @innermost _ e f => exact ⟨_, f.bracket.closing_closer⟩

/-- A closing bracket that may come next is read, and what is open around it stays open. -/
lemma Closable.step (h : s.Closable c) (closing : Closing c w) :
    ∃ fs, ∀ t : Token, t.terminal = w.terminal →
      ∃ s' e, s.step? t = some s' ∧ s'.operand? = some e ∧ s'.frames = fs := by
  cases h with
  | @arguments p fs n =>
    cases closing with
    | paren => exact ⟨fs, fun t ht => ⟨_, .call n [], if_pos ht, rfl, rfl⟩⟩
  | @star p fs base =>
    cases closing with
    | bracket => exact ⟨fs, fun t ht => ⟨_, .wildcard base, if_pos ht, rfl, rfl⟩⟩
  | @innermost _ e f fs hs frames =>
    obtain rfl := closing.unique f.bracket.closing_closer
    refine ⟨fs, fun t ht => ?_⟩
    obtain ⟨e', step⟩ := step_closer hs frames ht
    exact ⟨_, e', step, rfl, rfl⟩

/-- No operand starts with a closing bracket. -/
lemma stepOperand_closing (closing : Closing c w) (ht : t.terminal = w.terminal) :
    s.stepOperand? t = none := by
  rw [stepOperand?, Token.literal?, ht]
  cases closing with
  | _ => rfl

/-- After an operand a closing bracket is read only if it is that of the innermost bracket. -/
lemma stepAfter_closing (closing : Closing c w) (ht : t.terminal = w.terminal)
    (step : s.stepAfter? e t = some s') : ∃ f fs, s.frames = f :: fs ∧ f.bracket.closing = c := by
  obtain ⟨p, fs, phase⟩ := s
  rw [stepAfter?, ht] at step
  cases fs with
  | nil =>
    cases closing with
    | _ => cases step
  | cons f fs =>
    refine ⟨f, fs, rfl, ?_⟩
    obtain ⟨bracket, outside⟩ := f
    cases closing with
    | paren =>
      cases bracket with
      | group => rfl
      | call => rfl
      | index => cases step
    | bracket =>
      cases bracket with
      | group => cases step
      | call => cases step
      | index => rfl

/-- A closing bracket that is read is one that may come next. -/
lemma closable_of_step (closing : Closing c w) (ht : t.terminal = w.terminal)
    (step : s.step? t = some s') : s.Closable c := by
  -- Behind an operand a bracket closes the innermost frame.
  have innermost {e : Expr} (hs : s.operand? = some e) : s.Closable c := by
    have noCall : t.terminal ≠ .openParen := by
      rw [ht]
      cases closing with
      | _ => exact nofun
    rw [step_after hs noCall] at step
    obtain ⟨f, fs, frames, rfl⟩ := stepAfter_closing closing ht step
    exact .innermost hs frames
  -- No operand starts with a closing bracket.
  have noOperand (s : ParseState) : ¬ s.stepOperand? t = some s' := by
    rw [stepOperand_closing closing ht]
    exact nofun
  obtain ⟨p, fs, phase⟩ := s
  cases phase with
  | operand => exact absurd step (noOperand _)
  | arguments n =>
    cases closing with
    | paren => exact .arguments
    | bracket =>
      have other : t.terminal ≠ .closeParen := by
        rw [ht]
        exact nofun
      exact absurd ((if_neg other).symm.trans step) (noOperand _)
  | position base =>
    have other : t.terminal ≠ .star := by
      rw [ht]
      cases closing with
      | _ => exact nofun
    exact absurd ((if_neg other).symm.trans step) (noOperand _)
  | star base =>
    cases closing with
    | paren =>
      have other : t.terminal ≠ .closeBracket := by
        rw [ht]
        exact nofun
      cases (if_neg other).symm.trans step
    | bracket => exact .star
  | member base =>
    rw [step?, ht] at step
    cases closing with
    | _ => cases step
  | name n => exact innermost rfl
  | done e => exact innermost rfl

/-- A closing bracket is refused when it may not come next. -/
lemma step_closing_eq_none_iff (closing : Closing c w) (ht : t.terminal = w.terminal) :
    s.step? t = none ↔ ¬ s.Closable c := by
  constructor
  · intro refused closable
    obtain ⟨fs, closed⟩ := closable.step closing
    obtain ⟨s', e, step, -, -⟩ := closed t ht
    cases refused.symm.trans step
  · intro h
    cases step : s.step? t with
    | none => rfl
    | some s' => exact absurd (closable_of_step closing ht step) h

end ParseState

section Source

variable {source : List Char} {s : ParseState} {c : Char} {w : Word}

/-- What is read goes on to an expression behind a closing bracket that may come next. -/
lemma viable_closed (closing : Closing c w) (head : ∀ c ∈ source.head?, Text.isBlank c = false)
    (run : ParseState.start.run (scan source).tokens = .ok s) (n : Nat) (h : s.Closable c) :
    Viable ((scan source).tokens.map Token.listed ++ [⟨w.terminal.kind, w.text, n⟩]) := by
  obtain ⟨fs, closed⟩ := h.step closing
  have leads (us : List Token)
      (hu : us.map Token.terminal = (w :: fs.map fun f => f.bracket.closer).map Word.terminal) :
      ∃ s' e, s.run us = .ok s' ∧ s'.result? = some e := by
    obtain ⟨t, us, rfl, first, others⟩ := List.map_eq_cons_iff.1 hu
    obtain ⟨s', e, step, operand, frames⟩ := closed t first
    rw [List.map_map] at others
    rw [ParseState.run_cons step]
    exact ParseState.run_closers operand frames others
  obtain ⟨front, whole, cut⟩ := exists_cut 0 source
  rw [whole] at head
  obtain ⟨position, expression⟩ := expression_of_words cut head run leads
  rw [listing, List.append_cons] at expression
  refine ⟨_, _, ?_, expression⟩
  rw [List.map_append, List.map_append]
  rfl

/-- Behind a closing bracket that may not come next there is no hope. -/
lemma hopeless_closed (closing : Closing c w)
    (run : ParseState.start.run (scan source).tokens = .ok s) (n : Nat) (h : ¬ s.Closable c) :
    Hopeless ((scan source).tokens.map Token.listed ++ [⟨w.terminal.kind, w.text, n⟩]) := by
  let t : Token := ⟨w.terminal, w.text.toList, n⟩
  have listed : t.listed = ⟨w.terminal.kind, w.text, n⟩ := by
    rw [Token.listed, Token.text, String.ofList_toList]
  have spelt : ∀ u ∈ (scan source).tokens ++ [t], u.Spelt := by
    refine List.forall_mem_append.2 ⟨scan_spelt source, List.forall_mem_singleton.2 ?_⟩
    rw [Token.Spelt, listed]
    exact w.is_terminal n
  rw [← listed, ← List.map_singleton, ← List.map_append]
  exact hopeless_refused spelt run ((ParseState.step_closing_eq_none_iff closing rfl).2 h)

/-- Together with a closing bracket the tokens of a text start an expression exactly if it may come
next. -/
lemma viable_closed_iff (closing : Closing c w) (head : ∀ c ∈ source.head?, Text.isBlank c = false)
    (run : ParseState.start.run (scan source).tokens = .ok s) (n : Nat) :
    Viable ((scan source).tokens.map Token.listed ++ [⟨w.terminal.kind, w.text, n⟩]) ↔
      s.closer? = some c := by
  rw [ParseState.closer_eq_some_iff]
  refine ⟨fun viable => ?_, viable_closed closing head run n⟩
  by_contra h
  exact (hopeless_closed closing run n h).not_viable viable

/-- A refused token stands in front of the end of the text. -/
lemma refused_before_end {t : Token} (run : ParseState.start.run (scan source).tokens = .error t) :
    t.position < source.length := by
  obtain ⟨us, vs, s, tokens, -, -⟩ := ParseState.run_eq_error run
  have scanned : t.listed ∈ (scan source).tokens.map Token.listed := by
    rw [tokens]
    exact List.mem_map_of_mem (List.mem_append_right us (List.mem_cons_self ..))
  have inside := ((scan_tiling source).within _ scanned).2
  have long := ((scan_tiling source).stands _ scanned).nonempty
  calc t.position < t.listed.stop := Nat.lt_add_of_pos_right long
    _ ≤ source.length - ((scan source).stuck.getD []).length := inside
    _ ≤ source.length := Nat.sub_le ..

end Source

/-- What a text says that ends too early. -/
lemma endReason_text (s : ParseState) :
    ((endReason s).text = "Missing closing ')'" ↔ s.closer? = some ')') ∧
      ((endReason s).text = "Missing closing ']'" ↔ s.closer? = some ']') ∧
      ((endReason s).text = "Unexpected end of expression" ↔
        s.closer? ≠ some ')' ∧ s.closer? ≠ some ']') := by
  rw [endReason]
  cases h : s.closer? with
  | none => decide
  | some c =>
    obtain ⟨w, closing⟩ := (ParseState.closer_eq_some_iff.1 h).closing
    cases closing with
    | _ => decide

/-- A fault at the end of a text that is scanned to its end tells of that end, unless the text is empty. -/
lemma parse_end {text : String} {limit : Int} {fault : SyntaxFault}
    (stuck : (scan (unwrap text.toList).1).stuck = none) (failed : parse text limit = .error fault)
    (nonempty : (unwrap text.toList).1 ≠ []) (ended : fault.position = (unwrap text.toList).1.length) :
    ∃ s, ParseState.start.run (scan (unwrap text.toList).1).tokens = .ok s ∧
      fault.reason = endReason s := by
  rcases parse_error_cases failed with ⟨empty, -⟩ | ⟨-, read⟩ | ⟨e, -, rfl⟩
  · exact absurd empty nonempty
  · rcases parseSource_fault read with ⟨t, run, rfl⟩ | ⟨s, run, ⟨rest, some, rfl⟩ | ⟨-, -, rfl⟩⟩
    · exact absurd ended (refused_before_end run).ne
    · cases stuck.symm.trans some
    · exact ⟨s, run, rfl⟩
  · -- An expression that is too deep is refused at its start.
    exact absurd ended (List.length_pos_iff.2 nonempty).ne

/-- What is said at the end of a text follows from the bracket that may come next. -/
lemma parse_end_text {text : String} {limit : Int} {fault : SyntaxFault}
    (stuck : (scan (unwrap text.toList).1).stuck = none) (failed : parse text limit = .error fault)
    (ended : fault.position = (unwrap text.toList).1.length) :
    ∃ s, ParseState.start.run (scan (unwrap text.toList).1).tokens = .ok s ∧
      (fault.reason.text = "Missing closing ')'" ↔ s.closer? = some ')') ∧
      (fault.reason.text = "Missing closing ']'" ↔ s.closer? = some ']') ∧
      (fault.reason.text = "Unexpected end of expression" ↔
        (scan (unwrap text.toList).1).tokens.map Token.listed ≠ [] ∧
          s.closer? ≠ some ')' ∧ s.closer? ≠ some ']') := by
  by_cases empty : (unwrap text.toList).1 = []
  · have reason : fault.reason = .emptyExpression := by
      rw [parse, empty] at failed
      cases failed
      rfl
    rw [reason, empty, scan, scanFrom_nil]
    exact ⟨.start, rfl, by decide, by decide, by decide⟩
  · obtain ⟨s, run, reason⟩ := parse_end stuck failed empty ended
    obtain ⟨paren, bracket, neither⟩ := endReason_text s
    have tokens := tokens_ne_nil (head_unwrap text.toList) stuck empty
    rw [reason]
    exact ⟨s, run, paren, bracket, neither.trans (and_iff_right tokens).symm⟩

/-- Where a text ends too early, the closing bracket that is missing is the one with which its tokens start
an expression, and there are never two such brackets. If there is none, the end is unexpected, unless there
are no tokens at all. -/
theorem parse_end_reason (text : String) (limit : Int) (fault : SyntaxFault) (ts : List ListedToken)
    (n : Nat) (listed : tokenize text = .ok (ts ++ [⟨.eof, "", n⟩]))
    (failed : parse text limit = .error fault) (ended : fault.position = n) :
    (fault.reason.text = "Missing closing ')'" ↔ Viable (ts ++ [⟨.punctuation, ")", n⟩])) ∧
      (fault.reason.text = "Missing closing ']'" ↔ Viable (ts ++ [⟨.punctuation, "]", n⟩])) ∧
      (fault.reason.text = "Unexpected end of expression" ↔ ts ≠ [] ∧
        ¬ Viable (ts ++ [⟨.punctuation, ")", n⟩]) ∧ ¬ Viable (ts ++ [⟨.punctuation, "]", n⟩])) ∧
      ¬ (Viable (ts ++ [⟨.punctuation, ")", n⟩]) ∧ Viable (ts ++ [⟨.punctuation, "]", n⟩])) := by
  obtain ⟨stuck, listing⟩ := tokenize_eq_ok_iff.1 listed
  obtain ⟨rfl, last⟩ := List.append_inj' listing rfl
  obtain rfl : n = (unwrap text.toList).1.length := by
    cases last
    rfl
  obtain ⟨s, run, paren, bracket, neither⟩ := parse_end_text stuck failed ended
  have head : ∀ c ∈ (unwrap text.toList).1.head?, Text.isBlank c = false := head_unwrap text.toList
  have viableParen := viable_closed_iff .paren head run (unwrap text.toList).1.length
  have viableBracket := viable_closed_iff .bracket head run (unwrap text.toList).1.length
  refine ⟨paren.trans viableParen.symm, bracket.trans viableBracket.symm, ?_, ?_⟩
  · rw [neither]
    exact and_congr_right fun _ => and_congr (not_congr viableParen.symm) (not_congr viableBracket.symm)
  · rintro ⟨first, second⟩
    cases (viableParen.1 first).symm.trans (viableBracket.1 second)

/-- The index inside the call has to be closed first. -/
theorem parse_end_reason_nested :
    let ts : List ListedToken := [⟨.identifier, "f", 0⟩, ⟨.punctuation, "(", 1⟩, ⟨.identifier, "a", 2⟩,
      ⟨.punctuation, "[", 3⟩, ⟨.number, "0", 4⟩]
    tokenize "f(a[0" = .ok (ts ++ [⟨.eof, "", 5⟩]) ∧
      parse "f(a[0" 64 = .error ⟨.missingClosing ']', "f(a[0", 5⟩ ∧
      ¬ Viable (ts ++ [⟨.punctuation, ")", 5⟩]) ∧ Viable (ts ++ [⟨.punctuation, "]", 5⟩]) := by
  intro ts
  have tokens : (scan (unwrap "f(a[0".toList).1).tokens =
      [⟨.identifier, ['f'], 0⟩, ⟨.openParen, ['('], 1⟩, ⟨.identifier, ['a'], 2⟩,
        ⟨.openBracket, ['['], 3⟩, ⟨.number, ['0'], 4⟩] := by decide +kernel
  have stuck : (scan (unwrap "f(a[0".toList).1).stuck = none := by decide +kernel
  have listed : tokenize "f(a[0" = .ok (ts ++ [⟨.eof, "", 5⟩]) := by
    refine tokenize_eq_ok_iff.2 ⟨stuck, ?_⟩
    rw [tokens]
    rfl
  have read : parseSource (unwrap "f(a[0".toList).1 = .error ⟨.missingClosing ']', "f(a[0", 5⟩ := by
    rw [parseSource, tokens, stuck]
    rfl
  have failed : parse "f(a[0" 64 = .error ⟨.missingClosing ']', "f(a[0", 5⟩ :=
    parse_of_error (by decide +kernel) read
  obtain ⟨paren, bracket, -, -⟩ := parse_end_reason "f(a[0" 64 _ _ _ listed failed rfl
  exact ⟨listed, failed, mt paren.2 (by decide), bracket.1 (by decide)⟩

end WorkflowExpr
