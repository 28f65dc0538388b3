import WorkflowExpr.Proofs.Expr.Completeness

/-!
# Soundness of reading

The tokens read so far are those that a state stands for: the tokens of the open brackets with what
waits outside each of them, then the tokens of the operators that wait in the innermost one, then those
of the operand that is being read. A step keeps this, so that a result is derived by the tokens.
-/

namespace WorkflowExpr

/-- The tokens of an operator that may wait, with its left operand from a level. -/
inductive Waiting (level : Level) : Option (Operator × Expr) → List ListedToken → Prop where
  | none :
    Waiting level none []
  | some {op e ts t} :
    Derives level ts e →
    t.Is (.operator op) →
    Waiting level (some (op, e)) (ts ++ [t])

/-- The tokens of the operators that wait from a level on. -/
inductive Pending.Spells (p : Pending) : Level → List ListedToken → Prop where
  | unary {ts} :
    ts.length = p.nots →
    (∀ t ∈ ts, t.Is .not) →
    p.Spells .unary ts
  | relation {ts us} :
    Waiting .relation (p.relation.map fun w => (.relation w.1, w.2)) ts →
    p.Spells .unary us →
    p.Spells .relation (ts ++ us)
  | equality {ts us} :
    Waiting .equality (p.equality.map fun w => (equalityOperator w.1, w.2)) ts →
    p.Spells .relation us →
    p.Spells .equality (ts ++ us)
  | and {ts us} :
    Waiting .and (p.and.map (.and, ·)) ts →
    p.Spells .equality us →
    p.Spells .and (ts ++ us)
  | or {ts us} :
    Waiting .or (p.or.map (.or, ·)) ts →
    p.Spells .and us →
    p.Spells .or (ts ++ us)

/-- What derives an expression from a level derives it from the next one out. -/
lemma Derives.looser {level ts e} (d : Derives level.tighter ts e) : Derives level ts e := by
  cases level with
  | or => exact .orPass d
  | and => exact .andPass d
  | equality => exact .equalityPass d
  | relation => exact .relationPass d
  | unary => exact .unaryPass d
  | access => exact .accessPass d
  | primary => exact d

/-- An operator between operands of its levels derives an expression. -/
lemma Derives.binary {op : Operator} {ls rs t a b} (da : Derives op.level ls a)
    (ht : t.Is (.operator op)) (db : Derives op.level.tighter rs b) :
    Derives op.level (ls ++ t :: rs) (.binary op a b) := by
  cases op with
  | or => exact .or da ht db
  | and => exact .and da ht db
  | equal => exact .equal da ht db
  | notEqual => exact .notEqual da ht db
  | relation => exact .relation da ht db

/-- What waits at a level is an operator of that level. -/
lemma Pending.waiting_level {p : Pending} {level op left} (h : p.waiting level = some (op, left)) :
    op.level = level := by
  cases level with
  | equality =>
    obtain ⟨⟨isEqual, _⟩, -, ⟨⟩⟩ := Option.map_eq_some_iff.1 h
    cases isEqual <;> rfl
  | or =>
    obtain ⟨_, -, ⟨⟩⟩ := Option.map_eq_some_iff.1 h
    rfl
  | and =>
    obtain ⟨_, -, ⟨⟩⟩ := Option.map_eq_some_iff.1 h
    rfl
  | relation =>
    obtain ⟨_, -, ⟨⟩⟩ := Option.map_eq_some_iff.1 h
    rfl
  | _ => cases h

/-- What waits at a level and the tokens of the tighter levels derive what the level closes to. -/
lemma Waiting.derives {p : Pending} {level ts us e} (h : level ≠ .unary)
    (w : Waiting level (p.waiting level) ts)
    (d : Derives level.tighter us (p.closeAt e level.tighter)) :
    Derives level (ts ++ us) (p.closeAt e level) := by
  rw [p.closeAt_eq_applied e h]
  generalize hw : p.waiting level = o at w
  cases w with
  | none => exact d.looser
  | some dl ht =>
    obtain rfl := Pending.waiting_level hw
    rw [List.append_assoc]
    exact dl.binary ht d

namespace Pending.Spells

/-- Where no negation waits, no token does at the level of negations. -/
lemma unary_nil {p : Pending} (h : p.nots = 0) : p.Spells .unary [] :=
  .unary h.symm (List.forall_mem_nil _)

/-- Where nothing waits from the level of relations on, no token does. -/
lemma relation_nil {p : Pending} (hr : p.relation = none) (hn : p.nots = 0) :
    p.Spells .relation [] := by
  show p.Spells .relation ([] ++ [])
  refine .relation ?_ (unary_nil hn)
  rw [hr]
  exact .none

/-- Where nothing waits from the level of equality on, no token does. -/
lemma equality_nil {p : Pending} (he : p.equality = none) (hr : p.relation = none)
    (hn : p.nots = 0) : p.Spells .equality [] := by
  show p.Spells .equality ([] ++ [])
  refine .equality ?_ (relation_nil hr hn)
  rw [he]
  exact .none

/-- Where nothing waits from the level of `and` on, no token does. -/
lemma and_nil {p : Pending} (ha : p.and = none) (he : p.equality = none) (hr : p.relation = none)
    (hn : p.nots = 0) : p.Spells .and [] := by
  show p.Spells .and ([] ++ [])
  refine .and ?_ (equality_nil he hr hn)
  rw [ha]
  exact .none

/-- Where nothing waits at all, no token does. -/
lemma nil : ({} : Pending).Spells .or [] := by
  show ({} : Pending).Spells .or ([] ++ [])
  exact .or .none (and_nil rfl rfl rfl rfl)

/-- Negations in front of an operand derive it negated as often. -/
lemma negate {ts us e} (h : ∀ t ∈ ts, t.Is .not) (d : Derives .unary us e) :
    Derives .unary (ts ++ us) (Pending.negate ts.length e) := by
  induction ts with
  | nil => exact d
  | cons t ts ih => exact .not (h t (by simp)) (ih fun t' ht => h t' (by simp [ht]))

/-- What waits and the operand behind it derive what they close to. -/
lemma derives {p : Pending} {level ts us e} (sp : p.Spells level ts) (d : Derives .access us e) :
    Derives level (ts ++ us) (p.closeAt e level) := by
  induction sp with
  | unary len nots =>
    rw [closeAt, ← len]
    exact negate nots (.unaryPass d)
  | relation w _ ih =>
    rw [List.append_assoc]
    exact Waiting.derives (by simp) w ih
  | equality w _ ih =>
    rw [List.append_assoc]
    exact Waiting.derives (by simp) w ih
  | and w _ ih =>
    rw [List.append_assoc]
    exact Waiting.derives (by simp) w ih
  | or w _ ih =>
    rw [List.append_assoc]
    exact Waiting.derives (by simp) w ih

/-- A negation more waits behind the operators. -/
lemma not {p : Pending} {ts t} (sp : p.Spells .or ts) (ht : t.Is .not) :
    ({ p with nots := p.nots + 1 } : Pending).Spells .or (ts ++ [t]) := by
  -- The negations wait behind all operators, so that one more stands at the very end.
  cases sp with
  | or wo sp =>
  cases sp with
  | and wa sp =>
  cases sp with
  | equality we sp =>
  cases sp with
  | relation wr sp =>
  cases sp with
  | unary len nots =>
    simp only [List.append_assoc]
    refine .or wo (.and wa (.equality we (.relation wr (.unary ?_ ?_))))
    · rw [List.length_append, len]
      rfl
    · intro t' h
      rcases List.mem_append.1 h with h | h
      · exact nots t' h
      · rw [List.mem_singleton.1 h]
        exact ht

/-- An operator behind an operand waits with what is closed to its left. -/
lemma operator {p : Pending} {ts us e t} (sp : p.Spells .or ts) (d : Derives .access us e)
    (op : Operator) (ht : t.Is (.operator op)) :
    (p.operator e op).Spells .or (ts ++ us ++ [t]) := by
  -- What waits at the level of the operator or a tighter one becomes its left operand; nothing is left
  -- to wait behind it.
  cases op with
  | or =>
    have sp' : (p.operator e .or).Spells .or (ts ++ us ++ [t] ++ []) :=
      .or (.some (sp.derives d) ht) (and_nil rfl rfl rfl rfl)
    simpa using sp'
  | and =>
    cases sp with
    | @or os as wo sp =>
      have sp' : (p.operator e .and).Spells .or (os ++ (as ++ us ++ [t] ++ [])) :=
        .or wo (.and (.some (sp.derives d) ht) (equality_nil rfl rfl rfl))
      simpa using sp'
  | equal =>
    cases sp with
    | @or os _ wo sp =>
    cases sp with
    | @and as es wa sp =>
      have sp' : (p.operator e .equal).Spells .or (os ++ (as ++ (es ++ us ++ [t] ++ []))) :=
        .or wo (.and wa (.equality (.some (sp.derives d) ht) (relation_nil rfl rfl)))
      simpa using sp'
  | notEqual =>
    cases sp with
    | @or os _ wo sp =>
    cases sp with
    | @and as es wa sp =>
      have sp' : (p.operator e .notEqual).Spells .or (os ++ (as ++ (es ++ us ++ [t] ++ []))) :=
        .or wo (.and wa (.equality (.some (sp.derives d) ht) (relation_nil rfl rfl)))
      simpa using sp'
  | relation r =>
    cases sp with
    | @or os _ wo sp =>
    cases sp with
    | @and as _ wa sp =>
    cases sp with
    | @equality es rs we sp =>
      have sp' : (p.operator e (.relation r)).Spells .or
          (os ++ (as ++ (es ++ (rs ++ us ++ [t] ++ [])))) :=
        .or wo (.and wa (.equality we (.relation (.some (sp.derives d) ht) (unary_nil rfl))))
      simpa using sp'

end Pending.Spells

/-- The tokens that open a bracket, with the arguments of a call read so far. -/
inductive Opened : Bracket → List ListedToken → Prop where
  | group {l} :
    l.Is .openParen →
    Opened .group [l]
  | call {n l} :
    n.Is .identifier →
    l.Is .openParen →
    Opened (.call n.text []) [n, l]
  | more {n l ps ts c} :
    n.Is .identifier →
    l.Is .openParen →
    Separated ps ts →
    (∀ p ∈ ps, Derives .or p.1 p.2) →
    c.Is .comma →
    Opened (.call n.text (ps.map Prod.snd).reverse) (n :: l :: ts ++ [c])
  | index {ts e l} :
    Derives .access ts e →
    l.Is .openBracket →
    Opened (.index e) (ts ++ [l])

/-- The tokens of open brackets, with those that wait outside them. -/
inductive Enclosed : List Frame → List ListedToken → Prop where
  | nil :
    Enclosed [] []
  | cons {k p fs ts us vs} :
    Enclosed fs ts →
    p.Spells .or us →
    Opened k vs →
    Enclosed (⟨k, p⟩ :: fs) (ts ++ us ++ vs)

/-- The tokens of the operand that is being read. -/
inductive Phase.Spells : Phase → List ListedToken → Prop where
  | operand :
    Phase.operand.Spells []
  | arguments {n l} :
    n.Is .identifier →
    l.Is .openParen →
    (Phase.arguments n.text).Spells [n, l]
  | position {ts e l} :
    Derives .access ts e →
    l.Is .openBracket →
    (Phase.position e).Spells (ts ++ [l])
  | star {ts e l t} :
    Derives .access ts e →
    l.Is .openBracket →
    t.Is .star →
    (Phase.star e).Spells (ts ++ [l, t])
  | member {ts e d} :
    Derives .access ts e →
    d.Is .dot →
    (Phase.member e).Spells (ts ++ [d])
  | name {n} :
    n.Is .identifier →
    (Phase.name n.text).Spells [n]
  | done {ts e} :
    Derives .access ts e →
    (Phase.done e).Spells ts

/-- The tokens that a state stands for. -/
inductive ParseState.Spells : ParseState → List ListedToken → Prop where
  | mk {p fs phase ts us vs} :
    Enclosed fs ts →
    p.Spells .or us →
    phase.Spells vs →
    (ParseState.mk p fs phase).Spells (ts ++ us ++ vs)

/-- The arguments read so far and one more are those of a call. -/
lemma Opened.arguments {name args ts us e} (op : Opened (.call name args) ts)
    (d : Derives .or us e) :
    ∃ n l ps vs, n.Is .identifier ∧ n.text = name ∧ l.Is .openParen ∧ Separated ps vs ∧
      (∀ p ∈ ps, Derives .or p.1 p.2) ∧ e :: args = (ps.map Prod.snd).reverse ∧
      ts ++ us = n :: l :: vs := by
  cases op with
  | @call n l hn hl =>
    refine ⟨n, l, [(us, e)], us, hn, rfl, hl, .one, ?_, rfl, rfl⟩
    intro p hp
    rw [List.mem_singleton.1 hp]
    exact d
  | @more n l ps ts c hn hl sep ds hc =>
    refine ⟨n, l, ps ++ [(us, e)], ts ++ c :: us, hn, rfl, hl, .more sep hc, ?_, by simp, by simp⟩
    intro p hp
    rcases List.mem_append.1 hp with hp | hp
    · exact ds p hp
    · rw [List.mem_singleton.1 hp]
      exact d

namespace ParseState.Spells

variable {p : Pending} {fs : List Frame} {phase : Phase} {ts us vs : List ListedToken}
  {s' : ParseState} {t : Token}

/-- The token of a literal derives it. -/
lemma literal {v} (spelt : t.Spelt) (h : t.literal? = some v) :
    Derives .primary [t.listed] (.literal v) := by
  have chars : t.listed.text.toList = t.chars := String.toList_ofList
  have is {k} (ht : t.terminal = k) : t.listed.Is k := ht ▸ spelt
  unfold Token.literal? at h
  split at h
  · next ht =>
    cases h
    rw [← chars]
    exact .number (is ht)
  · next ht =>
    cases h
    rw [← chars]
    exact .string (is ht)
  · next ht =>
    cases h
    exact .trueWord (is ht)
  · next ht =>
    cases h
    exact .falseWord (is ht)
  · next ht =>
    cases h
    exact .nullWord (is ht)
  · cases h

/-- A token that starts an operand is one more token of the state. -/
lemma stepOperand (en : Enclosed fs ts) (sp : p.Spells .or us) (spelt : t.Spelt)
    (h : (ParseState.mk p fs phase).stepOperand? t = some s') :
    s'.Spells (ts ++ us ++ [t.listed]) := by
  have is {k} (ht : t.terminal = k) : t.listed.Is k := ht ▸ spelt
  unfold ParseState.stepOperand? at h
  split at h
  · next ht =>
    cases h
    exact .mk en sp (.name (is ht))
  · next ht =>
    cases h
    have r := ParseState.Spells.mk (.cons en sp (.group (is ht))) .nil .operand
    rwa [List.append_nil, List.append_nil] at r
  · next ht =>
    cases h
    have r := ParseState.Spells.mk en (sp.not (is ht)) .operand
    rwa [List.append_nil, ← List.append_assoc] at r
  · obtain ⟨v, hv, rfl⟩ := Option.map_eq_some_iff.1 h
    exact .mk en sp (.done (.accessPass (literal spelt hv)))

/-- A token that follows an operand is one more token of the state. -/
lemma stepAfter {e} (en : Enclosed fs ts) (sp : p.Spells .or us) (d : Derives .access vs e)
    (spelt : t.Spelt) (h : (ParseState.mk p fs phase).stepAfter? e t = some s') :
    s'.Spells (ts ++ us ++ vs ++ [t.listed]) := by
  have is {k} (ht : t.terminal = k) : t.listed.Is k := ht ▸ spelt
  have closed : Derives .or (us ++ vs) (p.close e) := sp.derives d
  unfold ParseState.stepAfter? at h
  split at h
  · next ht =>
    cases h
    rw [List.append_assoc]
    exact .mk en sp (.member d (is ht))
  · next ht =>
    cases h
    rw [List.append_assoc]
    exact .mk en sp (.position d (is ht))
  · next op ht =>
    cases h
    have r := ParseState.Spells.mk en (sp.operator d op (is ht)) .operand
    simpa using r
  · next ht =>
    -- a comma, which ends an argument
    split at h
    · next name args outside frames hf =>
      cases h
      obtain rfl : fs = ⟨.call name args, outside⟩ :: frames := hf
      cases en with
      | @cons _ _ _ ts us' ks en sp' op =>
        obtain ⟨n, l, ps, ws, hn, rfl, hl, sep, ds, hargs, e⟩ := op.arguments closed
        have r := ParseState.Spells.mk (.cons en sp' (.more hn hl sep ds (is ht))) .nil .operand
        rw [← hargs] at r
        simpa [← e] using r
    · cases h
  · next ht =>
    -- a closing parenthesis, which ends a group or the last argument
    split at h
    · next outside frames hf =>
      cases h
      obtain rfl : fs = ⟨.group, outside⟩ :: frames := hf
      cases en with
      | cons en sp' op =>
        cases op with
        | group hl =>
          have r := ParseState.Spells.mk en sp'
            (.done (.accessPass (.group hl closed (is ht))))
          simpa using r
    · next name args outside frames hf =>
      cases h
      obtain rfl : fs = ⟨.call name args, outside⟩ :: frames := hf
      cases en with
      | @cons _ _ _ ts us' ks en sp' op =>
        obtain ⟨n, l, ps, ws, hn, rfl, hl, sep, ds, hargs, e⟩ := op.arguments closed
        have r := ParseState.Spells.mk en sp'
          (.done (.accessPass (.call hn hl sep ds (is ht))))
        rw [hargs, List.reverse_reverse]
        simpa [← e] using r
    · cases h
  · next ht =>
    -- a closing bracket, which ends an index
    split at h
    · next base outside frames hf =>
      cases h
      obtain rfl : fs = ⟨.index base, outside⟩ :: frames := hf
      cases en with
      | cons en sp' op =>
        cases op with
        | index db hl =>
          have r := ParseState.Spells.mk en sp' (.done (.index db hl closed (is ht)))
          simpa using r
    · cases h
  · cases h

/-- A step reads one more token of the state. -/
lemma step {s : ParseState} (sp : s.Spells ts) (spelt : t.Spelt) (h : s.step? t = some s') :
    s'.Spells (ts ++ [t.listed]) := by
  have is {k} (ht : t.terminal = k) : t.listed.Is k := ht ▸ spelt
  cases sp with
  | mk en sp ph =>
    cases ph with
    | operand => simpa using stepOperand en sp spelt h
    | arguments hn hl =>
      -- Either the call has no arguments, or its first one starts inside the bracket.
      simp only [ParseState.step?] at h
      split at h
      · next ht =>
        cases h
        have r := ParseState.Spells.mk en sp (.done (.accessPass (.callEmpty hn hl (is ht))))
        simpa [ParseState.finish] using r
      · simpa using stepOperand (.cons en sp (.call hn hl)) .nil spelt h
    | position d hl =>
      simp only [ParseState.step?] at h
      split at h
      · next ht =>
        cases h
        have r := ParseState.Spells.mk en sp (.star d hl (is ht))
        simpa [ParseState.finish] using r
      · simpa using stepOperand (.cons en sp (.index d hl)) .nil spelt h
    | star d hl hs =>
      simp only [ParseState.step?] at h
      split at h
      · next ht =>
        cases h
        have r := ParseState.Spells.mk en sp (.done (.bracketStar d hl hs (is ht)))
        simpa [ParseState.finish] using r
      · cases h
    | member d hd =>
      simp only [ParseState.step?] at h
      split at h
      · next ht =>
        cases h
        have r := ParseState.Spells.mk en sp (.done (.property d hd (is ht)))
        simpa [ParseState.finish] using r
      · next ht =>
        cases h
        have r := ParseState.Spells.mk en sp (.done (.dotStar d hd (is ht)))
        simpa [ParseState.finish] using r
      · cases h
    | name hn =>
      simp only [ParseState.step?] at h
      split at h
      · next ht =>
        cases h
        have r := ParseState.Spells.mk en sp (.arguments hn (is ht))
        simpa [ParseState.finish] using r
      · exact stepAfter en sp (.accessPass (.root hn)) spelt h
    | done d => exact stepAfter en sp d spelt h

/-- By induction on the tokens: a run stands for the tokens that it has read. -/
lemma run {s : ParseState} {rest : List Token} (sp : s.Spells ts) (spelt : ∀ t ∈ rest, t.Spelt)
    (h : s.run rest = .ok s') : s'.Spells (ts ++ rest.map Token.listed) := by
  induction rest generalizing s ts with
  | nil =>
    cases h
    simpa using sp
  | cons t rest ih =>
    rw [ParseState.run] at h
    split at h
    · next next hs =>
      have sp' := ih (sp.step (spelt t (by simp)) hs) (fun t' ht => spelt t' (by simp [ht])) h
      simpa using sp'
    · cases h

/-- The start stands for no tokens. -/
lemma start : ParseState.start.Spells [] :=
  .mk .nil .nil .operand

/-- The result of a state is derived from the tokens that it stands for. -/
lemma result {s : ParseState} {e} (sp : s.Spells ts) (h : s.result? = some e) :
    Derives .or ts e := by
  cases sp with
  | mk en sp ph =>
    cases en with
    | cons => cases h
    | nil =>
      cases ph with
      | name hn =>
        cases h
        exact sp.derives (.accessPass (.root hn))
      | done d =>
        cases h
        exact sp.derives d
      | _ => cases h

end ParseState.Spells

/-- Tokens are read to a result exactly when they derive it. -/
theorem run_result_iff {ts : List Token} {e} (spelt : ∀ t ∈ ts, t.Spelt) :
    (∃ s, ParseState.start.run ts = .ok s ∧ s.result? = some e) ↔
      Derives .or (ts.map Token.listed) e := by
  constructor
  · rintro ⟨s, hs, hr⟩
    exact (ParseState.Spells.start.run spelt hs).result hr
  · intro d
    have run := d.run_eq
    rwa [map_token_listed spelt] at run

end WorkflowExpr
