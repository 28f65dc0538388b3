import WorkflowExpr.Proofs.Expr.Grammar

/-!
# Completeness of reading

Tokens that derive an expression are read to the end, and what was read is that expression. For a level
of the grammar, reading starts where no operator of that level or a tighter one waits, and ends at an
operand that closes to the expression at that level; what waits further out is as before.

Reading takes one way only, so tokens derive one expression at most.
-/

namespace WorkflowExpr

/-- The next level in; nothing is tighter than a primary. -/
def Level.tighter : Level → Level
  | or => and
  | and => equality
  | equality => relation
  | relation => unary
  | unary => access
  | access => primary
  | primary => primary

/-- The level of the expressions that an operator makes. -/
def Operator.level : Operator → Level
  | or => .or
  | and => .and
  | equal => .equality
  | notEqual => .equality
  | relation _ => .relation

namespace Pending

/-- What waits outside a level. -/
def outer (p : Pending) : Level → Pending
  | .or => {}
  | .and => { or := p.or }
  | .equality => { or := p.or, and := p.and }
  | .relation => { or := p.or, and := p.and, equality := p.equality }
  | .unary => { p with nots := 0 }
  | .access => p
  | .primary => p

/-- Closes everything down to a level. -/
def closeAt (p : Pending) (e : Expr) : Level → Expr
  | .or => p.close e
  | .and => p.closeAnd e
  | .equality => p.closeEquality e
  | .relation => p.closeRelation e
  | .unary => negate p.nots e
  | .access => e
  | .primary => e

/-- No binary operator of the level or a tighter one waits. -/
def Free (p : Pending) : Level → Prop
  | .unary => True
  | .access => True
  | .primary => True
  | level => p.outer level = p

/-- Where a level is free, so is the next one in. -/
lemma Free.tighter {p : Pending} {level} (free : p.Free level) : p.Free level.tighter := by
  cases level with
  | or =>
    obtain rfl : {} = p := free
    rfl
  | and =>
    have e : { or := p.or } = p := free
    rw [← e]
    rfl
  | equality =>
    have e : { or := p.or, and := p.and } = p := free
    rw [← e]
    rfl
  | _ => trivial

/-- Where the level of an operator is free, there is nothing to close. -/
lemma Free.closeAt {p : Pending} {op : Operator} (free : p.Free op.level) (e : Expr) :
    p.closeAt e op.level = e := by
  cases op with
  | or =>
    obtain rfl : {} = p := free
    rfl
  | and =>
    have h : { or := p.or } = p := free
    rw [← h]
    rfl
  | relation r =>
    have h : { or := p.or, and := p.and, equality := p.equality } = p := free
    rw [← h]
    rfl
  | _ =>
    have h : { or := p.or, and := p.and } = p := free
    rw [← h]
    rfl

/-- One negation more is closed around the others or inside them. -/
lemma negate_not (n : Nat) (e : Expr) : negate n (.not e) = negate (n + 1) e := by
  induction n with
  | zero => rfl
  | succ n ih => exact congrArg Expr.not ih

/-- Behind an operator the level of its right operand is free. -/
lemma operator_free (p : Pending) (e : Expr) (op : Operator) :
    (p.operator e op).Free op.level.tighter := by
  cases op <;> first | rfl | trivial

/-- An operator leaves alone what waits outside its level. -/
lemma operator_outer (p : Pending) (e : Expr) (op : Operator) :
    (p.operator e op).outer op.level = p.outer op.level := by
  cases op <;> rfl

/-- What waits at the level of an operator becomes its left operand. -/
lemma operator_closeAt (p : Pending) (e : Expr) (op : Operator) (b : Expr) :
    (p.operator e op).closeAt b op.level = .binary op (p.closeAt e op.level) b := by
  cases op <;> rfl

/-- The binary operator that waits at a level, with its left operand. -/
def waiting (p : Pending) : Level → Option (Operator × Expr)
  | .or => p.or.map (.or, ·)
  | .and => p.and.map (.and, ·)
  | .equality => p.equality.map fun w => (equalityOperator w.1, w.2)
  | .relation => p.relation.map fun w => (.relation w.1, w.2)
  | _ => none

/-- What waits at a level, applied to the operand behind it. -/
def applied (e : Expr) : Option (Operator × Expr) → Expr
  | none => e
  | some (op, left) => .binary op left e

/-- A level of binary operators is closed by applying what waits there to the tighter levels, closed. -/
lemma closeAt_eq_applied (p : Pending) (e : Expr) {level : Level} (h : level ≠ .unary) :
    p.closeAt e level = applied (p.closeAt e level.tighter) (p.waiting level) := by
  cases level with
  | or =>
    show p.close e = applied (p.closeAnd e) (p.or.map _)
    rw [close]
    cases p.or <;> rfl
  | and =>
    show p.closeAnd e = applied (p.closeEquality e) (p.and.map _)
    rw [closeAnd]
    cases p.and <;> rfl
  | equality =>
    show p.closeEquality e = applied (p.closeRelation e) (p.equality.map _)
    rw [closeEquality]
    cases p.equality <;> rfl
  | relation =>
    show p.closeRelation e = applied (negate p.nots e) (p.relation.map _)
    rw [closeRelation]
    cases p.relation <;> rfl
  | unary => exact absurd rfl h
  | access => rfl
  | primary => rfl

/-- What waits at a level waits outside the next tighter one. -/
lemma waiting_outer (p : Pending) (level : Level) :
    (p.outer level.tighter).waiting level = p.waiting level := by
  cases level <;> rfl

/-- What waits outside a level waits outside the next one in, too. -/
lemma outer_outer (p : Pending) (level : Level) :
    (p.outer level.tighter).outer level = p.outer level := by
  cases level <;> rfl

end Pending

namespace ParseState

/-- A run goes on with the state behind its first token. -/
lemma run_cons {s s' : ParseState} {t ts} (h : s.step? t = some s') :
    s.run (t :: ts) = s'.run ts := by
  rw [run, h]

/-- A run goes on with the state behind its first tokens. -/
lemma run_append {s s' : ParseState} {ts us} (h : s.run ts = .ok s') :
    s.run (ts ++ us) = s'.run us := by
  induction ts generalizing s with
  | nil =>
    cases h
    rfl
  | cons t ts ih =>
    rw [run] at h
    split at h
    · next next hs =>
      rw [List.cons_append, run_cons hs]
      exact ih h
    · cases h

/-- After an operand a token is read as what follows it, unless it opens the arguments of a call. -/
lemma step_after {s : ParseState} {e t} (h : s.operand? = some e) (ht : t.terminal ≠ .openParen) :
    s.step? t = s.stepAfter? e t := by
  obtain ⟨p, fs, phase⟩ := s
  cases phase with
  | name n =>
    cases h
    exact if_neg ht
  | done e' =>
    cases h
    rfl
  | _ => cases h

/-- A point behind an operand asks for a member of it. -/
lemma step_dot {s : ParseState} {e t} (h : s.operand? = some e) (ht : t.terminal = .dot) :
    s.step? t = some { s with phase := .member e } := by
  rw [step_after h (by rw [ht]; exact nofun), stepAfter?, ht]

/-- A bracket behind an operand asks for a position in it. -/
lemma step_bracket {s : ParseState} {e t} (h : s.operand? = some e)
    (ht : t.terminal = .openBracket) : s.step? t = some { s with phase := .position e } := by
  rw [step_after h (by rw [ht]; exact nofun), stepAfter?, ht]

/-- A star behind a point stands for all parts. -/
lemma step_memberStar {s : ParseState} {e t} (ht : t.terminal = .star) :
    step? { s with phase := .member e } t = some (s.finish (.wildcard e)) := by
  rw [step?, ht]
  rfl

/-- A star behind a bracket waits for the closing bracket. -/
lemma step_positionStar {s : ParseState} {e t} (ht : t.terminal = .star) :
    step? { s with phase := .position e } t = some { s with phase := .star e } :=
  if_pos ht

/-- The bracket that closes behind a star stands for all parts. -/
lemma step_starBracket {s : ParseState} {e t} (ht : t.terminal = .closeBracket) :
    step? { s with phase := .star e } t = some (s.finish (.wildcard e)) :=
  if_pos ht

/-- Where an operand may start, neither a star nor a closing parenthesis is read. -/
lemma stepOperand_terminal {s s' : ParseState} {t} (h : s.stepOperand? t = some s') :
    t.terminal ≠ .star ∧ t.terminal ≠ .closeParen := by
  constructor <;>
  · intro ht
    simp only [stepOperand?, ht, Token.literal?, Option.map_none] at h
    cases h

/-- Where every first token leads to the same state as inside a bracket, the tokens of an operand are
read as inside the bracket. -/
lemma run_enter {s s' : ParseState} {k x ts}
    (step : ∀ t next, (s.enter k).step? t = some next → s.step? t = some next)
    (h : (s.enter k).run ts = .ok s') (hx : s'.operand? = some x) : s.run ts = .ok s' := by
  cases ts with
  | nil =>
    cases h
    cases hx
  | cons t ts =>
    rw [run] at h
    split at h
    · next next hs =>
      rw [run_cons (step t next hs)]
      exact h
    · cases h

/-- A position that is read to an operand is read as the start of an index. -/
lemma run_position {s s' : ParseState} {base x ts} (hs : s.phase = .position base)
    (h : (s.enter (.index base)).run ts = .ok s') (hx : s'.operand? = some x) :
    s.run ts = .ok s' := by
  refine run_enter (fun t next hstep => ?_) h hx
  have operand : (s.enter (.index base)).stepOperand? t = some next := hstep
  rw [step?, hs]
  exact (if_neg (stepOperand_terminal operand).1).trans operand

/-- Arguments that are read to an operand are read as the first ones of a call. -/
lemma run_arguments {s s' : ParseState} {name x ts} (hs : s.phase = .arguments name)
    (h : (s.enter (.call name [])).run ts = .ok s') (hx : s'.operand? = some x) :
    s.run ts = .ok s' := by
  refine run_enter (fun t next hstep => ?_) h hx
  have operand : (s.enter (.call name [])).stepOperand? t = some next := hstep
  rw [step?, hs]
  exact (if_neg (stepOperand_terminal operand).2).trans operand

end ParseState

/-- A state is reached from where a level was free, with an operand that closes to `e` at the level. -/
structure Arrives (level : Level) (p : Pending) (fs : List Frame) (e : Expr) (s : ParseState) :
    Prop where
  frames : s.frames = fs
  outer : s.pending.outer level = p.outer level
  operand : ∃ x, s.operand? = some x ∧ s.pending.closeAt x level = p.closeAt e level

/-- Tokens are read as an expression of a level, wherever the level is free. -/
def Reads (level : Level) (ts : List Token) (e : Expr) : Prop :=
  ∀ p fs, p.Free level →
    ∃ s, (ParseState.mk p fs .operand).run ts = .ok s ∧ Arrives level p fs e s

/-- What is closed alike at a level is closed alike at the next looser one. -/
lemma Pending.closeAt_looser {p q : Pending} {x e : Expr} {level : Level}
    (ho : q.outer level.tighter = p.outer level.tighter)
    (hc : q.closeAt x level.tighter = p.closeAt e level.tighter) :
    q.outer level = p.outer level ∧ q.closeAt x level = p.closeAt e level := by
  constructor
  · rw [← outer_outer, ho, outer_outer]
  · by_cases unary : level = .unary
    · subst unary
      obtain rfl : q = p := ho
      exact congrArg (negate q.nots) hc
    · rw [closeAt_eq_applied q x unary, closeAt_eq_applied p e unary, hc, ← waiting_outer q, ho,
        waiting_outer]

/-- A state that arrives at a level arrives at the next one out. -/
lemma Arrives.looser {level p fs e s} (h : Arrives level.tighter p fs e s) :
    Arrives level p fs e s := by
  obtain ⟨hf, ho, x, hx, hc⟩ := h
  obtain ⟨ho', hc'⟩ := Pending.closeAt_looser ho hc
  exact ⟨hf, ho', x, hx, hc'⟩

/-- What is read at a level is read at the next looser one. -/
lemma Reads.looser (level : Level) {ts e} (h : Reads level.tighter ts e) : Reads level ts e := by
  intro p fs free
  obtain ⟨s, hs, arr⟩ := h p fs free.tighter
  exact ⟨s, hs, arr.looser⟩

/-- What is read at the tightest levels closes nothing. -/
lemma Reads.access_iff {ts e} :
    Reads .access ts e ↔ ∀ p fs, ∃ phase,
      (ParseState.mk p fs .operand).run ts = .ok ⟨p, fs, phase⟩ ∧
        (ParseState.mk p fs phase).operand? = some e := by
  constructor
  · intro h p fs
    obtain ⟨⟨q, _, phase⟩, hs, hf, ho, x, hx, hc⟩ := h p fs trivial
    obtain rfl : q = p := ho
    obtain rfl : x = e := hc
    cases hf
    exact ⟨phase, hs, hx⟩
  · intro h p fs _
    obtain ⟨phase, hs, hx⟩ := h p fs
    exact ⟨_, hs, rfl, rfl, e, hx, rfl⟩

/-- Operands of the right levels with an operator between them are read as the operator applied. -/
lemma Reads.binary (op : Operator) {t : Token} {ls rs a b} (ha : Reads op.level ls a)
    (ht : t.terminal = .operator op) (hb : Reads op.level.tighter rs b) :
    Reads op.level (ls ++ t :: rs) (.binary op a b) := by
  intro p fs free
  obtain ⟨s, hs, hf, ho, x, hx, hc⟩ := ha p fs free
  subst hf
  have step : s.step? t = some ⟨s.pending.operator x op, s.frames, .operand⟩ := by
    rw [ParseState.step_after hx (by rw [ht]; exact nofun), ParseState.stepAfter?, ht]
  -- The operator closes its level to the left, and behind it the next tighter level is free.
  obtain ⟨s', hs', arr⟩ := hb _ s.frames (Pending.operator_free s.pending x op)
  obtain ⟨hf', ho', y, hy, hc'⟩ := arr.looser
  refine ⟨s', ?_, hf', ?_, y, hy, ?_⟩
  · rw [ParseState.run_append hs, ParseState.run_cons step, hs']
  · exact ho'.trans ((Pending.operator_outer s.pending x op).trans ho)
  · rw [hc', Pending.operator_closeAt, hc, free.closeAt, free.closeAt]

/-- A negation is read where its operand is. -/
lemma Reads.not {t : Token} {ts e} (ht : t.terminal = .not) (h : Reads .unary ts e) :
    Reads .unary (t :: ts) (.not e) := by
  intro p fs _
  have step : (ParseState.mk p fs .operand).step? t =
      some ⟨{ p with nots := p.nots + 1 }, fs, .operand⟩ := by
    simp only [ParseState.step?, ParseState.stepOperand?, ht]
  obtain ⟨s, hs, hf, ho, x, hx, hc⟩ := h { p with nots := p.nots + 1 } fs trivial
  refine ⟨s, ?_, hf, ho, x, hx, hc.trans (Pending.negate_not p.nots e).symm⟩
  rw [ParseState.run_cons step, hs]

/-- What is read with operands attached to it is read on its own. -/
lemma Reads.primary {ts e} (h : Reads .access ts e) : Reads .primary ts e := by
  intro p fs _
  obtain ⟨phase, hs, hx⟩ := Reads.access_iff.1 h p fs
  exact ⟨_, hs, rfl, rfl, e, hx, rfl⟩

/-- Tokens after an operand that lead to another operand in the same place extend it. -/
lemma Reads.extend {ts us e e'} (h : Reads .access ts e)
    (step : ∀ s : ParseState, s.operand? = some e → s.run us = .ok (s.finish e')) :
    Reads .access (ts ++ us) e' := by
  rw [Reads.access_iff] at h ⊢
  intro p fs
  obtain ⟨phase, hs, hx⟩ := h p fs
  exact ⟨.done e', (ParseState.run_append hs).trans (step _ hx), rfl⟩

/-- A token that is read as an operand of its own is read at the tightest level. -/
lemma Reads.single {t : Token} {e}
    (h : ∀ p fs, ∃ phase, (ParseState.mk p fs .operand).step? t = some ⟨p, fs, phase⟩ ∧
      (ParseState.mk p fs phase).operand? = some e) : Reads .access [t] e := by
  rw [Reads.access_iff]
  intro p fs
  obtain ⟨phase, hs, hx⟩ := h p fs
  exact ⟨phase, by rw [ParseState.run_cons hs, ParseState.run], hx⟩

/-- A literal is read as an operand that can be accessed. -/
lemma Reads.literal {t : Token} {v} (h : t.literal? = some v) : Reads .access [t] (.literal v) := by
  apply Reads.single
  intro p fs
  refine ⟨.done (.literal v), ?_, rfl⟩
  have hv := h
  simp only [Token.literal?] at hv
  split at hv
  case h_6 => cases hv
  all_goals
    rename_i ht
    simp only [ParseState.step?, ParseState.stepOperand?, ht, h, ParseState.finish, Option.map_some]

/-- An expression in parentheses is read as an operand that can be accessed. -/
lemma Reads.group {l r : Token} {ts e} (hl : l.terminal = .openParen) (h : Reads .or ts e)
    (hr : r.terminal = .closeParen) : Reads .access (l :: ts ++ [r]) e := by
  rw [Reads.access_iff]
  intro p fs
  have first : (ParseState.mk p fs .operand).step? l = some ⟨{}, ⟨.group, p⟩ :: fs, .operand⟩ := by
    simp only [ParseState.step?, ParseState.stepOperand?, hl]
    rfl
  -- Inside the parentheses nothing waits, so that what is read there closes as a whole.
  obtain ⟨⟨q, gs, phase⟩, hs, hf, _, x, hx, hc⟩ := h {} (⟨.group, p⟩ :: fs) rfl
  obtain rfl : gs = ⟨.group, p⟩ :: fs := hf
  have hc' : q.close x = e := hc
  have last : (ParseState.mk q (⟨.group, p⟩ :: fs) phase).step? r = some ⟨p, fs, .done e⟩ := by
    rw [ParseState.step_after hx (by rw [hr]; exact nofun)]
    simp only [ParseState.stepAfter?, hr, hc']
  refine ⟨.done e, ?_, rfl⟩
  rw [List.cons_append, ParseState.run_cons first, ParseState.run_append hs,
    ParseState.run_cons last, ParseState.run]

/-- An index is read when its base and its position are. -/
lemma Reads.index {l r : Token} {ts us e i} (h : Reads .access ts e)
    (hl : l.terminal = .openBracket) (hi : Reads .or us i) (hr : r.terminal = .closeBracket) :
    Reads .access (ts ++ l :: us ++ [r]) (.index e i) := by
  rw [List.append_assoc]
  apply h.extend
  intro s hx
  have first := ParseState.step_bracket hx hl
  obtain ⟨⟨q, gs, phase⟩, hs, hf, _, y, hy, hc⟩ := hi {} (⟨.index e, s.pending⟩ :: s.frames) rfl
  obtain rfl : gs = ⟨.index e, s.pending⟩ :: s.frames := hf
  have hc' : q.close y = i := hc
  have inner : ParseState.run { s with phase := .position e } us = _ :=
    ParseState.run_position rfl hs hy
  have last : (ParseState.mk q (⟨.index e, s.pending⟩ :: s.frames) phase).step? r =
      some (s.finish (.index e i)) := by
    rw [ParseState.step_after hy (by rw [hr]; exact nofun)]
    simp only [ParseState.stepAfter?, hr, hc', ParseState.finish]
  rw [List.cons_append, ParseState.run_cons first, ParseState.run_append inner,
    ParseState.run_cons last, ParseState.run]

/-- The arguments of a call are read one after the other. All but the last one are kept in its frame. -/
lemma Reads.arguments {ps : List (List ListedToken × Expr)} {ts} (sep : Separated ps ts)
    (h : ∀ p ∈ ps, Reads .or (p.1.map ListedToken.token) p.2) (name : String) (q : Pending)
    (fs : List Frame) :
    ∃ s args x,
      (ParseState.mk q fs (.arguments name)).run (ts.map ListedToken.token) = .ok s ∧
        s.frames = ⟨.call name args, q⟩ :: fs ∧ s.operand? = some x ∧
        (s.pending.close x :: args).reverse = ps.map Prod.snd := by
  induction sep with
  | @one p =>
    obtain ⟨s, hs, hf, _, x, hx, hc⟩ := h p (by simp) {} (⟨.call name [], q⟩ :: fs) rfl
    have hc' : s.pending.close x = p.2 := hc
    exact ⟨s, [], x, ParseState.run_arguments rfl hs hx, hf, hx, by simp [hc']⟩
  | @more ps p ts c _ hcomma ih =>
    -- The comma closes the argument in front of it and puts it into the frame.
    obtain ⟨s, args, x, hs, hf, hx, ha⟩ := ih fun p' hp => h p' (by simp [hp])
    have step : s.step? c.token =
        some ⟨{}, ⟨.call name (s.pending.close x :: args), q⟩ :: fs, .operand⟩ := by
      have ht : c.token.terminal = .comma := hcomma.terminal_token
      rw [ParseState.step_after hx (by rw [ht]; exact nofun)]
      simp only [ParseState.stepAfter?, ht, hf]
    obtain ⟨s', hs', hf', _, y, hy, hc⟩ := h p (by simp) {} _ rfl
    have hc' : s'.pending.close y = p.2 := hc
    refine ⟨s', s.pending.close x :: args, y, ?_, hf', hy, ?_⟩
    · rw [List.map_append, ParseState.run_append hs, List.map_cons, ParseState.run_cons step, hs']
    · rw [List.reverse_cons, ha, hc', List.map_append, List.map_singleton]

/-- A name in front of a parenthesis opens the arguments of a call. -/
lemma ParseState.run_name {n l : Token} {ts p fs} (hn : n.terminal = .identifier)
    (hl : l.terminal = .openParen) :
    (ParseState.mk p fs .operand).run (n :: l :: ts) =
      (ParseState.mk p fs (.arguments n.text)).run ts := by
  have first : (ParseState.mk p fs .operand).step? n = some ⟨p, fs, .name n.text⟩ := by
    simp only [step?, stepOperand?, hn]
  have second : (ParseState.mk p fs (.name n.text)).step? l = some ⟨p, fs, .arguments n.text⟩ :=
    if_pos hl
  rw [run_cons first, run_cons second]

/-- A call is read when its arguments are. -/
lemma Reads.call {n l r : ListedToken} {ts ps} (hn : n.Is .identifier) (hl : l.Is .openParen)
    (sep : Separated ps ts) (h : ∀ p ∈ ps, Reads .or (p.1.map ListedToken.token) p.2)
    (hr : r.Is .closeParen) :
    Reads .access ((n :: l :: ts ++ [r]).map ListedToken.token)
      (.call n.text (ps.map Prod.snd)) := by
  rw [Reads.access_iff]
  intro p fs
  obtain ⟨⟨q, gs, phase⟩, args, x, hs, hf, hx, ha⟩ := Reads.arguments sep h n.text p fs
  obtain rfl : gs = ⟨.call n.text args, p⟩ :: fs := hf
  have last : (ParseState.mk q (⟨.call n.text args, p⟩ :: fs) phase).step? r.token =
      some ⟨p, fs, .done (.call n.text (ps.map Prod.snd))⟩ := by
    have ht : r.token.terminal = .closeParen := hr.terminal_token
    rw [ParseState.step_after hx (by rw [ht]; exact nofun), ← ha]
    simp only [ParseState.stepAfter?, ht]
  refine ⟨.done (.call n.text (ps.map Prod.snd)), ?_, rfl⟩
  rw [List.cons_append, List.cons_append, List.map_cons, List.map_cons, List.map_append,
    ParseState.run_name hn.terminal_token hl.terminal_token, n.text_token,
    ParseState.run_append hs, List.map_singleton, ParseState.run_cons last, ParseState.run]

/-- Tokens that derive an expression are read as it. -/
theorem Derives.reads {level ts e} (d : Derives level ts e) :
    Reads level (ts.map ListedToken.token) e := by
  induction d with
  -- what a level takes from the next tighter one
  | orPass _ ih => exact Reads.looser .or ih
  | andPass _ ih => exact Reads.looser .and ih
  | equalityPass _ ih => exact Reads.looser .equality ih
  | relationPass _ ih => exact Reads.looser .relation ih
  | unaryPass _ ih => exact Reads.looser .unary ih
  | accessPass _ ih => exact Reads.looser .access ih
  -- operators between their operands
  | or _ ht _ iha ihb =>
    rw [List.map_append]
    exact Reads.binary .or iha ht.terminal_token ihb
  | and _ ht _ iha ihb =>
    rw [List.map_append]
    exact Reads.binary .and iha ht.terminal_token ihb
  | equal _ ht _ iha ihb =>
    rw [List.map_append]
    exact Reads.binary .equal iha ht.terminal_token ihb
  | notEqual _ ht _ iha ihb =>
    rw [List.map_append]
    exact Reads.binary .notEqual iha ht.terminal_token ihb
  | @relation _ _ _ _ _ r _ ht _ iha ihb =>
    rw [List.map_append]
    exact Reads.binary (.relation r) iha ht.terminal_token ihb
  | not ht _ ih => exact ih.not ht.terminal_token
  -- accesses, which extend the operand in front of them
  | @property _ d n e _ hd hn ih =>
    rw [List.map_append]
    apply ih.extend
    intro s hx
    have member := ParseState.step_dot hx hd.terminal_token
    rw [List.map_cons, ParseState.run_cons member, List.map_singleton, ParseState.run,
      ParseState.step?, hn.terminal_token, n.text_token]
    rfl
  | @dotStar _ d t e _ hd ht ih =>
    rw [List.map_append]
    apply ih.extend
    intro s hx
    have member := ParseState.step_dot hx hd.terminal_token
    rw [List.map_cons, ParseState.run_cons member, List.map_singleton,
      ParseState.run_cons (ParseState.step_memberStar ht.terminal_token), ParseState.run]
  | @bracketStar _ l t r e _ hl ht hr ih =>
    rw [List.map_append]
    apply ih.extend
    intro s hx
    have position := ParseState.step_bracket hx hl.terminal_token
    have star := @ParseState.step_positionStar s e _ ht.terminal_token
    have last := @ParseState.step_starBracket s e _ hr.terminal_token
    rw [List.map_cons, ParseState.run_cons position, List.map_cons, ParseState.run_cons star,
      List.map_singleton, ParseState.run_cons last, ParseState.run]
  | index _ hl _ hr ih ihi =>
    rw [List.map_append, List.map_append, List.map_cons]
    exact ih.index hl.terminal_token ihi hr.terminal_token
  -- operands of their own
  | string ht => exact (Reads.literal (by rw [Token.literal?, ht.terminal_token]; rfl)).primary
  | number ht => exact (Reads.literal (by rw [Token.literal?, ht.terminal_token]; rfl)).primary
  | trueWord ht => exact (Reads.literal (by rw [Token.literal?, ht.terminal_token])).primary
  | falseWord ht => exact (Reads.literal (by rw [Token.literal?, ht.terminal_token])).primary
  | nullWord ht => exact (Reads.literal (by rw [Token.literal?, ht.terminal_token])).primary
  | @callEmpty n l r hn hl hr =>
    refine (Reads.access_iff.2 fun p fs => ⟨.done (.call n.text []), ?_, rfl⟩).primary
    have last : (ParseState.mk p fs (.arguments n.text)).step? r.token =
        some ⟨p, fs, .done (.call n.text [])⟩ := if_pos hr.terminal_token
    rw [List.map_cons, List.map_cons, ParseState.run_name hn.terminal_token hl.terminal_token,
      n.text_token, List.map_singleton, ParseState.run_cons last, ParseState.run]
  | call hn hl sep _ hr ih => exact (Reads.call hn hl sep ih hr).primary
  | @root n hn =>
    refine (Reads.single fun p fs => ⟨.name n.text, ?_, rfl⟩).primary
    simp only [ParseState.step?, ParseState.stepOperand?, hn.terminal_token, n.text_token]
  | group hl _ hr ih =>
    rw [List.map_append, List.map_cons]
    exact (Reads.group hl.terminal_token ih hr.terminal_token).primary

/-- Tokens that derive an expression are read to the end, and it is the result. -/
lemma Derives.run_eq {ts e} (d : Derives .or ts e) :
    ∃ s, ParseState.start.run (ts.map ListedToken.token) = .ok s ∧ s.result? = some e := by
  obtain ⟨⟨p, fs, phase⟩, hs, hf, _, x, hx, hc⟩ := d.reads {} [] rfl
  obtain rfl : fs = [] := hf
  have hc' : p.close x = e := hc
  exact ⟨_, hs, by simp only [ParseState.result?, hx, Option.map_some, hc']⟩

/-- Tokens derive one expression at most. -/
theorem Derives.unique {ts e e'} (d : Derives .or ts e) (d' : Derives .or ts e') : e = e' := by
  obtain ⟨s, hs, hr⟩ := d.run_eq
  obtain ⟨s', hs', hr'⟩ := d'.run_eq
  cases hs.symm.trans hs'
  exact Option.some.inj (hr.symm.trans hr')

end WorkflowExpr
