import WorkflowExpr.Proofs.Expr.Viable

/-!
# Where syntax faults stand

A fault of a text is reported at the first place that leaves no hope: the tokens in front of it start an
expression, and with what is there they do not. So no fault of parsing stands behind one of scanning.
-/

namespace WorkflowExpr

section Reading

variable {source : List Char} {fault : SyntaxFault}

/-- A text that is no expression has a refused token, or a place where scanning is stuck, or it ends too
early, and its fault tells of that. -/
lemma parseSource_fault (h : parseSource source = .error fault) :
    (∃ t, ParseState.start.run (scan source).tokens = .error t ∧
      fault = ⟨refusedReason t, String.ofList source, t.position⟩) ∨
    ∃ s, ParseState.start.run (scan source).tokens = .ok s ∧
      ((∃ rest, (scan source).stuck = some rest ∧
        fault = ⟨stuckReason rest, String.ofList source, source.length - rest.length⟩) ∨
      ((scan source).stuck = none ∧ s.result? = none ∧
        fault = ⟨endReason s, String.ofList source, source.length⟩)) := by
  rw [parseSource] at h
  cases run : ParseState.start.run (scan source).tokens with
  | error t =>
    rw [run] at h
    cases h
    exact .inl ⟨t, rfl, rfl⟩
  | ok s =>
    refine .inr ⟨s, rfl, ?_⟩
    rw [run] at h
    cases stuck : (scan source).stuck with
    | some rest =>
      rw [stuck] at h
      cases h
      exact .inl ⟨rest, rfl, rfl⟩
    | none =>
      rw [stuck] at h
      cases result : s.result? with
      | some e =>
        simp only [result] at h
        cases h
      | none =>
        simp only [result] at h
        cases h
        exact .inr ⟨rfl, rfl, rfl⟩

/-- The places at which a text that is no expression can have its fault. -/
lemma parseSource_eq_error (h : parseSource source = .error fault) :
    (∃ t, ParseState.start.run (scan source).tokens = .error t ∧ fault.position = t.position) ∨
    ∃ s, ParseState.start.run (scan source).tokens = .ok s ∧
      ((∃ rest, (scan source).stuck = some rest ∧
        fault = ⟨stuckReason rest, String.ofList source, source.length - rest.length⟩) ∨
      ((scan source).stuck = none ∧ s.result? = none ∧ fault.position = source.length)) := by
  rcases parseSource_fault h with ⟨t, run, rfl⟩ | ⟨s, run, ⟨rest, stuck, rfl⟩ | ⟨stuck, result, rfl⟩⟩
  · exact .inl ⟨t, run, rfl⟩
  · exact .inr ⟨s, run, .inl ⟨rest, stuck, rfl⟩⟩
  · exact .inr ⟨s, run, .inr ⟨stuck, result, rfl⟩⟩

end Reading

/-- Unless the expression nests too deep, the fault of a text is that of reading it. -/
lemma parse_eq_error {text : String} {limit : Int} {fault : SyntaxFault}
    (h : parse text limit = .error fault) (nonempty : (unwrap text.toList).1 ≠ [])
    (shallow : fault.reason ≠ .tooDeep limit) :
    parseSource (unwrap text.toList).1 = .error fault := by
  rcases parse_error_cases h with ⟨empty, -⟩ | ⟨-, read⟩ | ⟨e, -, rfl⟩
  · exact absurd empty nonempty
  · exact read
  · exact absurd rfl shallow

/-- The listed tokens of a text that lie in front of a place. -/
def tokensBefore (source : List Char) (place : Nat) : List ListedToken :=
  ((scan source).tokens.map Token.listed).filter fun t => t.stop ≤ place

/-- What leaves no hope at the place of a fault: the text ends there and is no expression, or no
expression starts with the tokens up to the one there, or there is no token at all. -/
inductive SyntaxFault.Cause (source : List Char) (text : String) (fault : SyntaxFault) : Prop where
  | ended :
    fault.position = source.length →
    tokenize text = .ok (tokensBefore source fault.position ++ [⟨.eof, "", source.length⟩]) →
    Incomplete (tokensBefore source fault.position) →
    Cause source text fault
  | refused {t} :
    t ∈ (scan source).tokens.map Token.listed →
    t.position = fault.position →
    Hopeless (tokensBefore source fault.position ++ [t]) →
    Cause source text fault
  | unmatched :
    tokenize text = .error fault →
    (∀ k l, Terminal.Matches k l → ¬ l <+: source.drop fault.position) →
    Cause source text fault

namespace Tiling

variable {source : List Char} {start stop : Nat} {ts us : List ListedToken} {t : ListedToken}

/-- Tokens that tile a stretch of a text all stop in it. -/
lemma filter_stop (h : Tiling source start stop ts) :
    (ts.filter fun u => u.stop ≤ stop) = ts :=
  List.filter_eq_self.2 fun u hu => decide_eq_true (h.within u hu).2

/-- The tokens that end where a token starts, or before that, are those in front of it. -/
lemma filter_position (h : Tiling source start stop (ts ++ t :: us)) :
    ((ts ++ t :: us).filter fun u => u.stop ≤ t.position) = ts := by
  obtain ⟨-, -, apart⟩ := List.pairwise_append.1 h.apart
  obtain ⟨-, increasing, -⟩ := List.pairwise_append.1 h.increasing
  have before : (ts.filter fun u => u.stop ≤ t.position) = ts :=
    List.filter_eq_self.2 fun u hu => decide_eq_true (apart u hu t (List.mem_cons_self ..))
  have behind : ((t :: us).filter fun u => u.stop ≤ t.position) = [] := by
    refine List.filter_eq_nil_iff.2 fun u hu => ?_
    have long : u.position < u.stop :=
      Nat.lt_add_of_pos_right (h.stands u (List.mem_append_right ts hu)).nonempty
    have later : t.position ≤ u.position := by
      rcases List.mem_cons.1 hu with rfl | hu
      · exact Nat.le_refl _
      · exact Nat.le_of_lt ((List.pairwise_cons.1 increasing).1 u hu)
    rw [decide_eq_true_eq]
    omega
  rw [List.filter_append, before, behind, List.append_nil]

end Tiling

section Source

variable {source : List Char}

/-- All tokens lie in front of the place where scanning is stuck, or of the end of the text. -/
lemma tokensBefore_scanned (source : List Char) :
    tokensBefore source (source.length - ((scan source).stuck.getD []).length) =
      (scan source).tokens.map Token.listed :=
  (scan_tiling source).filter_stop

/-- Tokens of which none is refused start an expression. -/
lemma viable_scanned {s : ParseState} (head : ∀ c ∈ source.head?, Text.isBlank c = false)
    (run : ParseState.start.run (scan source).tokens = .ok s) :
    ∃ us, IsExpression ((scan source).tokens.map Token.listed ++ us) := by
  obtain ⟨front, whole, cut⟩ := exists_cut 0 source
  rw [whole] at head
  exact exists_expression cut head run

/-- The first tokens of a scan are spelt like their terminals. -/
lemma spelt_front {ts us : List Token} (tokens : (scan source).tokens = ts ++ us) : ∀ t ∈ ts, t.Spelt := by
  intro t ht
  apply scan_spelt source
  rw [tokens]
  exact List.mem_append_left us ht

/-- The tokens in front of the place of a token are those that were scanned before it. -/
lemma tokensBefore_position {ts us : List Token} {t : Token} (tokens : (scan source).tokens = ts ++ t :: us) :
    tokensBefore source t.position = ts.map Token.listed := by
  have tiles := scan_tiling source
  rw [tokens, List.map_append, List.map_cons] at tiles
  rw [tokensBefore, tokens, List.map_append, List.map_cons]
  exact tiles.filter_position

/-- The tokens in front of a refused one start an expression, and together with it they do not. -/
lemma viable_refused {t : Token} (head : ∀ c ∈ source.head?, Text.isBlank c = false)
    (run : ParseState.start.run (scan source).tokens = .error t) :
    t ∈ (scan source).tokens ∧
      (∃ us, IsExpression (tokensBefore source t.position ++ us)) ∧
      Hopeless (tokensBefore source t.position ++ [t.listed]) := by
  obtain ⟨ts, us, s, tokens, read, refused⟩ := ParseState.run_eq_error run
  have before := tokensBefore_position tokens
  refine ⟨tokens ▸ List.mem_append_right ts (List.mem_cons_self ..), ?_, ?_⟩
  · obtain ⟨front, whole, cut⟩ := exists_cut 0 source
    rw [← scan, tokens] at cut
    obtain ⟨start, behind, rfl, shorter⟩ := cut.split
    rw [whole, List.append_assoc] at head
    rw [before]
    exact exists_expression shorter head read
  · rw [before, ← List.map_singleton, ← List.map_append]
    exact hopeless_refused (spelt_front (tokens.trans (List.append_cons ts t us))) read refused

/-- Tokens that are read to no result are no expression. -/
lemma incomplete_scanned {s : ParseState}
    (run : ParseState.start.run (scan source).tokens = .ok s) (result : s.result? = none) :
    Incomplete ((scan source).tokens.map Token.listed) := by
  intro us same h
  obtain ⟨s', e, read, result'⟩ := h.run
  have again := ParseState.run_spelling same read
  rw [map_token_listed (scan_spelt source), run] at again
  cases again
  cases result.symm.trans result'

end Source

/-- Parsing reports a fault at the first place that leaves no hope. -/
theorem parse_fault_place (text : String) (limit : Int) (fault : SyntaxFault)
    (failed : parse text limit = .error fault) (nonempty : (unwrap text.toList).1 ≠ [])
    (shallow : fault.reason ≠ .tooDeep limit) :
    let source := (unwrap text.toList).1
    (∃ us, IsExpression (tokensBefore source fault.position ++ us)) ∧
      fault.Cause source text ∧
      ∀ lexical, tokenize text = .error lexical → fault.position ≤ lexical.position := by
  intro source
  have head : ∀ c ∈ source.head?, Text.isBlank c = false := head_unwrap text.toList
  have all := tokensBefore_scanned source
  -- A token is refused, or scanning is stuck, or the text ends too early.
  rcases parseSource_eq_error (parse_eq_error failed nonempty shallow) with
    ⟨t, run, place⟩ | ⟨s, run, ⟨rest, stuck, rfl⟩ | ⟨stuck, result, place⟩⟩
  · obtain ⟨scanned, viable, hopeless⟩ := viable_refused head run
    rw [place]
    have listed := List.mem_map_of_mem (f := Token.listed) scanned
    refine ⟨viable, .refused listed place.symm (place ▸ hopeless), fun lexical h => ?_⟩
    obtain ⟨rest, stuck, rfl⟩ := tokenize_eq_error_iff.1 h
    have inside := ((scan_tiling source).within _ listed).2
    rw [stuck] at inside
    exact Nat.le_trans (Nat.le_add_right ..) inside
  · have same : tokenize text = .error ⟨stuckReason rest, String.ofList source,
        source.length - rest.length⟩ := tokenize_eq_error_iff.2 ⟨rest, stuck, rfl⟩
    rw [stuck, Option.getD_some] at all
    refine ⟨?_, .unmatched same ?_, fun lexical h => ?_⟩
    · dsimp only
      rw [all]
      exact viable_scanned head run
    · obtain ⟨-, -, -, -, none⟩ := stuck_eq_some stuck
      dsimp only
      rw [drop_stuck stuck]
      exact fun k l hl => Lexeme.first_none none hl
    · cases same.symm.trans h
      exact Nat.le_refl _
  · rw [stuck, Option.getD_none, List.length_nil, Nat.sub_zero, ← place] at all
    refine ⟨?_, .ended place ?_ ?_, fun lexical h => ?_⟩
    · rw [all]
      exact viable_scanned head run
    · rw [all]
      exact tokenize_eq_ok_iff.2 ⟨stuck, rfl⟩
    · rw [all]
      exact incomplete_scanned run result
    · obtain ⟨rest, some, -⟩ := tokenize_eq_error_iff.1 h
      cases stuck.symm.trans some

/-- A name behind a name is refused, also if a character further right starts no token. -/
theorem parse_fault_place_name :
    parse "a b ~" 3 = .error ⟨.unexpectedToken "b", "a b ~", 2⟩ ∧
      (unwrap "a b ~".toList).1 ≠ [] ∧
      SyntaxReason.unexpectedToken "b" ≠ .tooDeep 3 ∧
      (∃ us, IsExpression ([⟨.identifier, "a", 0⟩] ++ us)) ∧
      SyntaxFault.Cause (unwrap "a b ~".toList).1 "a b ~" ⟨.unexpectedToken "b", "a b ~", 2⟩ ∧
      tokenize "a b ~" = .error ⟨.unexpectedCharacter '~', "a b ~", 4⟩ ∧ 2 ≤ 4 := by
  have tokens : (scan (unwrap "a b ~".toList).1).tokens =
      [⟨.identifier, ['a'], 0⟩, ⟨.identifier, ['b'], 2⟩] := by decide +kernel
  have nonempty : (unwrap "a b ~".toList).1 ≠ [] := by decide +kernel
  have shallow : SyntaxReason.unexpectedToken "b" ≠ .tooDeep 3 := nofun
  have read : parseSource (unwrap "a b ~".toList).1 =
      .error ⟨.unexpectedToken "b", "a b ~", 2⟩ := by
    rw [parseSource, tokens]
    rfl
  have failed : parse "a b ~" 3 = .error ⟨.unexpectedToken "b", "a b ~", 2⟩ := by
    rw [parse, if_neg (mt List.isEmpty_iff.1 nonempty), read]
  have lexical : tokenize "a b ~" = .error ⟨.unexpectedCharacter '~', "a b ~", 4⟩ :=
    tokenize_eq_error_iff.2 ⟨['~'], by decide +kernel, rfl⟩
  have before : tokensBefore (unwrap "a b ~".toList).1 2 = [⟨.identifier, "a", 0⟩] := by
    rw [tokensBefore, tokens]
    rfl
  obtain ⟨viable, cause, leftmost⟩ := parse_fault_place "a b ~" 3 _ failed nonempty shallow
  rw [before] at viable
  exact ⟨failed, nonempty, shallow, viable, cause, lexical, leftmost _ lexical⟩

end WorkflowExpr
