import WorkflowExpr.Proofs.Expr.Grammar

/-!
# Scanned tokens

What scanning a text gives: every token is spelt as its terminal demands, so that its listing tells the
terminal, and the listing of a text is there exactly when scanning is not stuck.
-/

namespace WorkflowExpr

/-- A word is spelt like its terminal. -/
lemma Token.spelt_word (word : List Char) (position : Nat) :
    (Token.mk (Lexeme.wordTerminal word) word position).Spelt := by
  unfold Lexeme.wordTerminal
  split
  · next h =>
    subst h
    rfl
  · split
    · next h =>
      subst h
      rfl
    · split
      · next h =>
        subst h
        rfl
      · rfl

/-- A symbol is spelt like its terminal. -/
lemma Token.spelt_symbol {cs chars k} (position : Nat) (h : Lexeme.symbol? cs = some (k, chars)) :
    (Token.mk k chars position).Spelt := by
  unfold Lexeme.symbol? at h
  split at h <;> cases h <;> rfl

/-- The token at the start of a text is spelt as its terminal demands. -/
lemma Token.spelt_first {cs chars k} (position : Nat) (h : Lexeme.first? cs = some (k, chars)) :
    (Token.mk k chars position).Spelt := by
  unfold Lexeme.first? at h
  split at h
  · cases h
    exact spelt_word _ position
  · split at h
    · cases h
      rfl
    · split at h
      · cases h
        rfl
      · exact spelt_symbol position h

/-- An empty text has no tokens. -/
lemma scanFrom_nil (position : Nat) : scanFrom position [] = ⟨[], none⟩ := by
  rw [scanFrom]

/-- A space in front is skipped. -/
lemma scanFrom_space {position c cs} (h : Lexeme.isSpace c = true) :
    scanFrom position (c :: cs) = scanFrom (position + 1) cs := by
  rw [scanFrom, if_pos h]

/-- Scanning is stuck where no token matches. -/
lemma scanFrom_stuck {position c cs} (h : Lexeme.isSpace c = false)
    (hf : Lexeme.first? (c :: cs) = none) : scanFrom position (c :: cs) = ⟨[], some (c :: cs)⟩ := by
  rw [scanFrom, if_neg (by simp [h])]
  split
  · rfl
  · next e =>
    rw [hf] at e
    cases e

/-- The token at the start of a text is scanned first. -/
lemma scanFrom_token {position c cs k chars} (h : Lexeme.isSpace c = false)
    (hf : Lexeme.first? (c :: cs) = some (k, chars)) :
    scanFrom position (c :: cs) =
      ⟨⟨k, chars, position⟩ ::
        (scanFrom (position + chars.length) ((c :: cs).drop chars.length)).tokens,
        (scanFrom (position + chars.length) ((c :: cs).drop chars.length)).stuck⟩ := by
  rw [scanFrom, if_neg (by simp [h])]
  split
  · next e =>
    rw [hf] at e
    cases e
  · next e =>
    rw [hf] at e
    cases e
    rfl

/-- Scanned tokens are spelt as their terminals demand. -/
lemma scanFrom_spelt (position : Nat) (cs : List Char) :
    ∀ t ∈ (scanFrom position cs).tokens, t.Spelt := by
  fun_induction scanFrom position cs with
  | case1 => exact List.forall_mem_nil _
  | case2 _ _ _ _ ih => exact ih
  | case3 => exact List.forall_mem_nil _
  | case4 position c rest _ k chars hf _ ih =>
    intro t ht
    rcases List.mem_cons.1 ht with rfl | ht
    · exact Token.spelt_first position hf
    · exact ih t ht

/-- The tokens of a scan are spelt like their terminals. -/
lemma scan_spelt (cs : List Char) : ∀ t ∈ (scan cs).tokens, t.Spelt :=
  scanFrom_spelt 0 cs

/-- A text has a listing exactly when scanning it is not stuck. -/
theorem tokenize_eq_ok_iff {text : String} {listing : List ListedToken} :
    tokenize text = .ok listing ↔
      (scan (unwrap text.toList).1).stuck = none ∧
        listing = (scan (unwrap text.toList).1).tokens.map Token.listed ++
          [⟨.eof, "", (unwrap text.toList).1.length⟩] := by
  rw [tokenize]
  cases h : (scan (unwrap text.toList).1).stuck with
  | some rest => simp
  | none =>
    simp only [Except.ok.injEq, true_and]
    exact eq_comm

/-- Where scanning a text is stuck, the fault of its listing is. -/
theorem tokenize_eq_error_iff {text : String} {fault : SyntaxFault} :
    tokenize text = .error fault ↔
      ∃ rest, (scan (unwrap text.toList).1).stuck = some rest ∧
        fault = ⟨stuckReason rest, String.ofList (unwrap text.toList).1,
          (unwrap text.toList).1.length - rest.length⟩ := by
  rw [tokenize]
  cases h : (scan (unwrap text.toList).1).stuck with
  | none => simp
  | some rest =>
    simp only [Except.error.injEq, Option.some.injEq, exists_eq_left']
    exact eq_comm

end WorkflowExpr
