import WorkflowExpr.Proofs.Expr.Depth
import WorkflowExpr.Proofs.Expr.Scanning
import WorkflowExpr.Proofs.Expr.Soundness

/-!
# Parsing and the grammar

Parsing a text gives an expression exactly when the listed tokens of the text derive it and it respects
the nesting limit, and tokens derive one expression at most.
-/

namespace WorkflowExpr

/-- No expression is derived from no tokens. -/
lemma Derives.ne_nil {ts e} (d : Derives .or ts e) : ts ≠ [] := by
  rintro rfl
  obtain ⟨s, hs, hr⟩ := d.run_eq
  cases hs
  cases hr

/-- An unwrapped text is read as an expression exactly when scanning is not stuck and the scanned
tokens derive it. -/
theorem parseSource_eq_ok_iff {source : List Char} {e} :
    parseSource source = .ok e ↔
      (scan source).stuck = none ∧ Derives .or ((scan source).tokens.map Token.listed) e := by
  rw [← run_result_iff (scan_spelt source), parseSource]
  cases hr : ParseState.start.run (scan source).tokens with
  | error t => simp
  | ok s =>
    cases (scan source).stuck with
    | some rest => simp
    | none => cases he : s.result? <;> simp [he]

section Limit

variable {text : String} {limit : Int}

/-- No expression is read from an empty source. -/
lemma parseSource_ne_nil {source : List Char} {e} (read : parseSource source = .ok e) : source ≠ [] := by
  rintro rfl
  obtain ⟨-, d⟩ := parseSource_eq_ok_iff.1 read
  rw [scan, scanFrom_nil] at d
  exact d.ne_nil rfl

/-- The fault of a text that is no expression has nothing to do with the limit. -/
lemma parse_of_error {fault : SyntaxFault} (nonempty : (unwrap text.toList).1 ≠ [])
    (read : parseSource (unwrap text.toList).1 = .error fault) : parse text limit = .error fault := by
  rw [parse, if_neg (mt List.isEmpty_iff.1 nonempty), read]

/-- A text that is an expression is parsed to it if it respects the limit. -/
lemma parse_of_ok {e} (read : parseSource (unwrap text.toList).1 = .ok e) :
    parse text limit =
      if e.fits limit then .ok ⟨String.ofList (unwrap text.toList).1, e⟩
      else .error ⟨.tooDeep limit, String.ofList (unwrap text.toList).1, 0⟩ := by
  rw [parse, if_neg (mt List.isEmpty_iff.1 (parseSource_ne_nil read)), read]
  dsimp only
  rw [Expr.measure_eq]
  cases e.fits limit with
  | _ => rfl

/-- A text that is not parsed is empty, or it is no expression, or its expression nests too deep. -/
lemma parse_error_cases {fault : SyntaxFault} (failed : parse text limit = .error fault) :
    ((unwrap text.toList).1 = [] ∧ fault = ⟨.emptyExpression, text, 0⟩) ∨
      ((unwrap text.toList).1 ≠ [] ∧ parseSource (unwrap text.toList).1 = .error fault) ∨
      ∃ e, parseSource (unwrap text.toList).1 = .ok e ∧
        fault = ⟨.tooDeep limit, String.ofList (unwrap text.toList).1, 0⟩ := by
  by_cases empty : (unwrap text.toList).1 = []
  · rw [parse, empty] at failed
    cases failed
    exact .inl ⟨empty, rfl⟩
  · cases read : parseSource (unwrap text.toList).1 with
    | error fault' =>
      rw [parse_of_error empty read] at failed
      cases failed
      exact .inr (.inl ⟨empty, rfl⟩)
    | ok e =>
      rw [parse_of_ok read] at failed
      split at failed
      · cases failed
      · cases failed
        exact .inr (.inr ⟨e, rfl, rfl⟩)

/-- A text is parsed exactly when it is read without its braces and the result respects the limit. -/
lemma parse_eq_ok_iff {parsed : Parsed} :
    parse text limit = .ok parsed ↔
      parsed.source = String.ofList (unwrap text.toList).1 ∧
        parseSource (unwrap text.toList).1 = .ok parsed.root ∧
        parsed.root.fits limit = true := by
  constructor
  · intro h
    cases read : parseSource (unwrap text.toList).1 with
    | error fault =>
      by_cases nonempty : (unwrap text.toList).1 = []
      · rw [parse, nonempty] at h
        cases h
      · rw [parse_of_error nonempty read] at h
        cases h
    | ok e =>
      rw [parse_of_ok read] at h
      split at h
      · next fit =>
        cases h
        exact ⟨rfl, rfl, fit⟩
      · cases h
  · obtain ⟨source, root⟩ := parsed
    rintro ⟨rfl, read, fit⟩
    rw [parse_of_ok read, if_pos fit]

end Limit

/-- Parsing gives an expression exactly when the listed tokens derive it and it nests no deeper than
allowed; and tokens derive one expression at most. -/
theorem parse_root_iff (text : String) (limit : Int) (e : Expr) (h : 1 ≤ limit) :
    ((parse text limit).map Parsed.root = .ok e ↔
      ∃ ts n, tokenize text = .ok (ts ++ [⟨.eof, "", n⟩]) ∧ Derives .or ts e ∧ e.depth ≤ limit) ∧
    ∀ ts a b, Derives .or ts a → Derives .or ts b → a = b := by
  refine ⟨⟨fun hp => ?_, ?_⟩, fun ts a b => Derives.unique⟩
  · cases hq : parse text limit with
    | error fault =>
      rw [hq] at hp
      cases hp
    | ok parsed =>
      rw [hq] at hp
      obtain rfl : parsed.root = e := Except.ok.inj hp
      obtain ⟨-, hs, hf⟩ := parse_eq_ok_iff.1 hq
      obtain ⟨hn, d⟩ := parseSource_eq_ok_iff.1 hs
      exact ⟨_, _, tokenize_eq_ok_iff.2 ⟨hn, rfl⟩, d, (Expr.fits_iff h).1 hf⟩
  · rintro ⟨ts, n, ht, d, fit⟩
    obtain ⟨hn, hts⟩ := tokenize_eq_ok_iff.1 ht
    -- The listing ends with the end of the text, so that the tokens before it are the scanned ones.
    obtain ⟨rfl, -⟩ := List.append_inj' hts rfl
    have hp : parse text limit = .ok ⟨String.ofList (unwrap text.toList).1, e⟩ :=
      parse_eq_ok_iff.2 ⟨rfl, parseSource_eq_ok_iff.2 ⟨hn, d⟩, (Expr.fits_iff h).2 fit⟩
    rw [hp]
    rfl

/-- A negation binds tighter than a comparison. -/
theorem parse_root_iff_negation :
    (1 : Int) ≤ 3 ∧
      (parse "!a == b" 3).map Parsed.root =
        .ok (.binary .equal (.not (.root "a")) (.root "b")) := by
  refine ⟨by decide, (parse_root_iff "!a == b" 3 _ (by decide)).1.2 ?_⟩
  have tokens : (scan (unwrap "!a == b".toList).1).tokens =
      [⟨.not, ['!'], 0⟩, ⟨.identifier, ['a'], 1⟩, ⟨.operator .equal, ['=', '='], 3⟩,
        ⟨.identifier, ['b'], 6⟩] := by decide +kernel
  refine ⟨[⟨.operator, "!", 0⟩, ⟨.identifier, "a", 1⟩, ⟨.operator, "==", 3⟩, ⟨.identifier, "b", 6⟩],
    7, ?_, ?_, by decide⟩
  · refine tokenize_eq_ok_iff.2 ⟨by decide +kernel, ?_⟩
    rw [tokens]
    rfl
  · have left : Derives .equality [⟨.operator, "!", 0⟩, ⟨.identifier, "a", 1⟩] (.not (.root "a")) :=
      .equalityPass (.relationPass (.not rfl (.unaryPass (.accessPass (.root rfl)))))
    exact .orPass (.andPass (.equal left rfl (.relationPass (.unaryPass (.accessPass (.root rfl))))))

end WorkflowExpr
