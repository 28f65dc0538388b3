import WorkflowExpr.Proofs.Expr.Fault

/-!
# The nesting limit

The limit decides nothing but whether an expression that has been read is too deep: the expressions of a text
that is parsed at two limits are one, and the fault of a text that is no expression is the same at every
limit.
-/

namespace WorkflowExpr

section Reasons

variable (limit : Int)

/-- A refused token is no matter of depth. -/
lemma refusedReason_shallow (t : Token) : refusedReason t ≠ .tooDeep limit := by
  intro deep
  rw [refusedReason] at deep
  split at deep
  · cases deep
  · cases deep

/-- A character that starts no token is no matter of depth. -/
lemma stuckReason_shallow (rest : List Char) : stuckReason rest ≠ .tooDeep limit := by
  intro deep
  cases rest with
  | nil => cases deep
  | cons =>
    rw [stuckReason] at deep
    split at deep
    · cases deep
    · cases deep

/-- An early end is no matter of depth. -/
lemma endReason_shallow (s : ParseState) : endReason s ≠ .tooDeep limit := by
  intro deep
  rw [endReason] at deep
  split at deep
  · cases deep
  · cases deep

/-- Reading a text finds no fault of depth. -/
lemma parseSource_shallow {source : List Char} {fault : SyntaxFault}
    (h : parseSource source = .error fault) : fault.reason ≠ .tooDeep limit := by
  rcases parseSource_fault h with ⟨t, -, rfl⟩ | ⟨s, -, ⟨rest, -, rfl⟩ | ⟨-, -, rfl⟩⟩
  · exact refusedReason_shallow limit t
  · exact stuckReason_shallow limit rest
  · exact endReason_shallow limit s

end Reasons

/-- A text that is parsed at some limit is parsed at another exactly if it is not too deep for it, to the same
expression. A text that is no expression has one fault, whatever the limit. -/
theorem parse_limit (text : String) (limit : Int) (h : 1 ≤ limit) :
    (∀ larger parsed, parse text larger = .ok parsed →
      parse text limit =
        if parsed.root.depth ≤ limit then .ok parsed
        else .error ⟨.tooDeep limit, parsed.source, 0⟩) ∧
    ((¬ ∃ ts n e, tokenize text = .ok (ts ++ [⟨.eof, "", n⟩]) ∧ Derives .or ts e) →
      ∃ fault, (∀ n, fault.reason ≠ .tooDeep n) ∧ ∀ d, parse text d = .error fault) := by
  constructor
  · rintro larger ⟨source, root⟩ parsed
    obtain ⟨rfl, read, -⟩ := parse_eq_ok_iff.1 parsed
    rw [parse_of_ok read]
    simp only [Expr.fits_iff h]
  · intro wrong
    by_cases nonempty : (unwrap text.toList).1 = []
    · refine ⟨⟨.emptyExpression, text, 0⟩, nofun, fun d => ?_⟩
      rw [parse, nonempty]
      rfl
    · cases read : parseSource (unwrap text.toList).1 with
      | error fault =>
        exact ⟨fault, fun n => parseSource_shallow n read, fun d => parse_of_error nonempty read⟩
      | ok e =>
        obtain ⟨stuck, derived⟩ := parseSource_eq_ok_iff.1 read
        exact absurd ⟨_, _, e, tokenize_eq_ok_iff.2 ⟨stuck, rfl⟩, derived⟩ wrong

/-- Parentheses do not count, and a character that starts no token is found at every limit. -/
theorem parse_limit_negation :
    (1 : Int) ≤ 2 ∧
      parse "!(!a)" 3 = .ok ⟨"!(!a)", .not (.not (.root "a"))⟩ ∧
      parse "!(!a)" 2 = .error ⟨.tooDeep 2, "!(!a)", 0⟩ ∧
      tokenize "!!~" = .error ⟨.unexpectedCharacter '~', "!!~", 2⟩ ∧
      ∃ fault, (∀ n, fault.reason ≠ .tooDeep n) ∧ ∀ d, parse "!!~" d = .error fault := by
  have tokens : (scan (unwrap "!(!a)".toList).1).tokens =
      [⟨.not, ['!'], 0⟩, ⟨.openParen, ['('], 1⟩, ⟨.not, ['!'], 2⟩, ⟨.identifier, ['a'], 3⟩,
        ⟨.closeParen, [')'], 4⟩] := by decide +kernel
  have stuck : (scan (unwrap "!(!a)".toList).1).stuck = none := by decide +kernel
  have read : parseSource (unwrap "!(!a)".toList).1 = .ok (.not (.not (.root "a"))) := by
    rw [parseSource, tokens, stuck]
    rfl
  have parsed : parse "!(!a)" 3 = .ok ⟨"!(!a)", .not (.not (.root "a"))⟩ :=
    parse_eq_ok_iff.2 ⟨by decide +kernel, read, by decide⟩
  have lexical : tokenize "!!~" = .error ⟨.unexpectedCharacter '~', "!!~", 2⟩ :=
    tokenize_eq_error_iff.2 ⟨['~'], by decide +kernel, rfl⟩
  have deep := (parse_limit "!(!a)" 2 (by decide)).1 3 _ parsed
  refine ⟨by decide, parsed, deep.trans (if_neg (by decide)), lexical, ?_⟩
  apply (parse_limit "!!~" 2 (by decide)).2
  rintro ⟨ts, n, e, listed, -⟩
  cases lexical.symm.trans listed

end WorkflowExpr
