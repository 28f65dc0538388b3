import WorkflowExpr.Proofs.Evaluation.Walk

/-!
# Occurrences

What stands around a part of an expression is a row of shells, from the outside in. Evaluation of the
whole either comes to the part, with a trace that does not depend on it, and goes on with its result; or
it ends without it, and then the part makes no difference. A right operand at which no evaluation
arrives, because the left one decided or because its operator is not reached at all, can therefore be
replaced by anything.
-/

namespace WorkflowExpr

/-- An expression with one of its direct parts taken out. -/
inductive Shell where
  | property (name : String)
  | base (position : Expr)
  | position (base : Expr)
  | wildcard
  | argument (name : String) (before after : List Expr)
  | not
  | left (op : Operator) (right : Expr)
  | right (op : Operator) (left : Expr)

/-- The expression with a part put in. -/
def Shell.fill : Shell → Expr → Expr
  | .property name, e => .property e name
  | .base index, e => .index e index
  | .position array, e => .index array e
  | .wildcard, e => .wildcard e
  | .argument name before after, e => .call name (before ++ e :: after)
  | .not, e => .not e
  | .left op other, e => .binary op e other
  | .right op other, e => .binary op other e

/-- The expression in which a part stands inside shells, the outermost first. -/
def fill (shells : List Shell) (e : Expr) : Expr :=
  shells.foldr Shell.fill e

/-- Evaluation of an expression from one trace comes to the part inside its shell with another trace. -/
inductive Shell.Arrives (env : Environment) : Shell → Trace → Trace → Prop where
  | property {name t} :
    Arrives env (.property name) t t
  | base {position t} :
    Arrives env (.base position) t t
  | position {base b t u} :
    Resolves env base t b u →
    Arrives env (.position base) t u
  | wildcard {t} :
    Arrives env .wildcard t t
  | argument {name before after f vs t u} :
    env.library.get name = .ok f →
    ResolvesAll env before t vs u →
    Arrives env (.argument name before after) t u
  | not {t} :
    Arrives env .not t t
  | left {op right t} :
    Arrives env (.left op right) t t
  | right {op left a t u} :
    Resolves env left t a u →
    op.stopsAt ≠ some a.value.isTruthy →
    Arrives env (.right op left) t (u.record a.path)

/-- Evaluation of an expression from one trace comes to the part inside shells with another trace. -/
inductive Reaches (env : Environment) : List Shell → Trace → Trace → Prop where
  | here {t} :
    Reaches env [] t t
  | inside {shell shells t u v} :
    shell.Arrives env t u →
    Reaches env shells u v →
    Reaches env (shell :: shells) t v

section Runs

variable {env : Environment} {t u v : Trace}

/-- From one trace an expression resolves in one way at most. -/
lemma Resolves.unique {e : Expr} {a b : Resolved} (ha : Resolves env e t a u)
    (hb : Resolves env e t b v) : a = b ∧ u = v := by
  cases ha.symm.trans hb
  exact ⟨rfl, rfl⟩

/-- From one trace a list of expressions leaves one trace at most. -/
lemma ResolvesAll.unique {es : List Expr} {as bs : List Value} (ha : ResolvesAll env es t as u)
    (hb : ResolvesAll env es t bs v) : u = v := by
  cases ha.symm.trans hb
  rfl

/-- Evaluation comes to a part in one way at most. -/
lemma Shell.Arrives.unique {shell : Shell} (hu : shell.Arrives env t u)
    (hv : shell.Arrives env t v) : u = v := by
  cases hu with
  | position hb =>
    cases hv with
    | position hb' => exact (hb.unique hb').2
  | argument _ hs =>
    cases hv with
    | argument _ hs' => exact hs.unique hs'
  | right ha _ =>
    cases hv with
    | right ha' _ =>
      obtain ⟨rfl, rfl⟩ := ha.unique ha'
      rfl
  | _ =>
    cases hv
    rfl

/-- Evaluation comes to what stands inside shells in one way at most. -/
lemma Reaches.unique {shells : List Shell} (hu : Reaches env shells t u) (hv : Reaches env shells t v) :
    u = v := by
  induction hu with
  | here =>
    cases hv
    rfl
  | inside first _ ih =>
    cases hv with
    | inside first' hv =>
      obtain rfl := first.unique first'
      exact ih hv

/-- A list of expressions in two parts is resolved part by part. -/
lemma resolveAll_append (es fs : List Expr) :
    resolveAll env (es ++ fs) =
      resolveAll env es >>= fun vs => resolveAll env fs >>= fun ws => pure (vs ++ ws) := by
  induction es with
  | nil =>
    show _ = pure [] >>= _
    simp
  | cons e es ih =>
    show (resolve env e >>= fun a => Walk.record a.path >>= fun _ => resolveAll env (es ++ fs) >>=
      fun ws => pure (a.value :: ws)) = (resolve env e >>= fun a => Walk.record a.path >>= fun _ =>
        resolveAll env es >>= fun ws => pure (a.value :: ws)) >>= _
    simp [ih]

end Runs

/-- What evaluating a whole from a trace does with a part of it: it comes to the part and goes on with
its result, or it ends without it. -/
inductive Passage (env : Environment) (whole : Expr → Walk Resolved) (t : Trace)
    (arrives : Trace → Prop) : Prop where
  | through {u : Trace} (behind : Resolved → Walk Resolved) :
    arrives u →
    (∀ e, (whole e).run t = (resolve env e >>= behind).run u) →
    Passage env whole t arrives
  | past :
    (∀ u, ¬ arrives u) →
    (∀ e e', (whole e).run t = (whole e').run t) →
    Passage env whole t arrives

namespace Passage

variable {env : Environment} {t : Trace} {α : Type}

/-- A walk that does not depend on the part may go before. -/
lemma after {m : Walk α} {whole : α → Expr → Walk Resolved} {arrives : Trace → Prop}
    (yields : ∀ u, arrives u → ∃ a t₁, m.Yields t a t₁)
    (further : ∀ a t₁, m.Yields t a t₁ → Passage env (whole a) t₁ arrives) :
    Passage env (fun e => m >>= fun a => whole a e) t arrives := by
  match hm : m.run t with
  | (.error f, t₁) =>
    apply Passage.past
    · intro u hu
      obtain ⟨a, t₂, hy⟩ := yields u hu
      cases hm.symm.trans hy
    · intro e e'
      rw [Walk.run_bind, Walk.run_bind, hm]
  | (.ok a, t₁) =>
    have run (e : Expr) : (m >>= fun a => whole a e).run t = (whole a e).run t₁ := by
      rw [Walk.run_bind, hm]
    cases further a t₁ hm with
    | through behind hu same =>
      apply Passage.through behind hu
      intro e
      rw [run, same]
    | past none same =>
      apply Passage.past none
      intro e e'
      rw [run, run, same]

end Passage

section Runs

variable {env : Environment}

/-- Evaluation of a filled shell comes to the part or goes past it. -/
lemma Shell.resolve_fill (env : Environment) (shell : Shell) (t : Trace) :
    Passage env (fun e => resolve env (shell.fill e)) t (shell.Arrives env t) := by
  cases shell with
  | property name => exact .through _ .property fun _ => rfl
  | base index => exact .through _ .base fun _ => rfl
  | wildcard => exact .through _ .wildcard fun _ => rfl
  | not => exact .through _ .not fun _ => rfl
  | position array =>
    -- The array is resolved first; the part is reached with the trace that it leaves.
    apply Passage.after (m := resolve env array)
    · rintro u (_ | _ | hb)
      exact ⟨_, _, hb⟩
    · intro b u hb
      exact .through _ (.position hb) fun _ => rfl
  | argument name before after =>
    apply Passage.after (m := Walk.of (env.library.get name))
    · intro u hu
      cases hu with
      | argument hf => exact ⟨_, _, Walk.yields_of.2 ⟨hf, rfl⟩⟩
    · intro f t₁ yields
      obtain ⟨hf, rfl⟩ := Walk.yields_of.1 yields
      simp only [resolveAll_append, bind_assoc]
      apply Passage.after (m := resolveAll env before)
      · intro u hu
        cases hu with
        | argument _ hs => exact ⟨_, _, hs⟩
      · intro vs u hs
        apply Passage.through _ (.argument hf hs)
        intro e
        show ((resolve env e >>= fun a => Walk.record a.path >>= fun _ => resolveAll env after >>=
          fun ws => pure (a.value :: ws)) >>= _).run u = _
        rw [bind_assoc]
  | left op other =>
    obtain ⟨stop, hs⟩ | ⟨compare, hc⟩ := op.stops_or_compares
    · simp only [Shell.fill, resolve_logical hs]
      exact .through _ .left fun _ => rfl
    · simp only [Shell.fill, resolve_comparison hc]
      exact .through _ .left fun _ => rfl
  | right op other =>
    have resolves (u : Trace) (hu : Shell.Arrives env (.right op other) t u) :
        ∃ a t₁, Resolves env other t a t₁ := by
      cases hu with
      | right ha _ => exact ⟨_, _, ha⟩
    obtain ⟨stop, hs⟩ | ⟨compare, hc⟩ := op.stops_or_compares
    · simp only [Shell.fill, resolve_logical hs]
      -- Whether the part is reached depends on the other operand alone.
      apply Passage.after (m := resolve env other) resolves
      intro a t₁ (ha : Resolves env other t a t₁)
      by_cases stopped : a.value.isTruthy = stop
      · apply Passage.past
        · intro u hu
          cases hu with
          | right ha' goes =>
            obtain ⟨rfl, -⟩ := ha.unique ha'
            exact goes (stopped ▸ hs)
        · intro e e'
          rw [if_pos stopped, if_pos stopped]
      · have goes : op.stopsAt ≠ some a.value.isTruthy := by
          rw [hs]
          intro decided
          exact stopped (Option.some.inj decided).symm
        apply Passage.through pure (.right ha goes)
        intro e
        rw [if_neg stopped, bind_pure]
        rfl
    · simp only [Shell.fill, resolve_comparison hc]
      apply Passage.after (m := resolve env other) resolves
      intro a t₁ ha
      have goes : op.stopsAt ≠ some a.value.isTruthy := by
        rw [Operator.stopsAt_eq_none hc]
        nofun
      exact .through _ (.right ha goes) fun _ => rfl

/-- Evaluation comes to the part inside shells or goes past it. -/
lemma resolve_fill (env : Environment) (shells : List Shell) (t : Trace) :
    Passage env (fun e => resolve env (fill shells e)) t (Reaches env shells t) := by
  -- From the outermost shell inwards; what follows the part of a shell follows all that is inside.
  induction shells generalizing t with
  | nil => exact .through pure .here fun e => by rw [bind_pure]; rfl
  | cons shell shells ih =>
    cases shell.resolve_fill env t with
    | @through u behind hu outer =>
      cases ih u with
      | @through v further hv inner =>
        apply Passage.through (fun a => further a >>= behind) (.inside hu hv)
        intro e
        show (resolve env (shell.fill (fill shells e))).run t = _
        rw [outer, ← bind_assoc, Walk.run_bind, Walk.run_bind _ behind, ← inner e]
      | past none inner =>
        apply Passage.past
        · intro v hv
          cases hv with
          | inside hu' hv =>
            obtain rfl := hu.unique hu'
            exact none v hv
        · intro e e'
          show (resolve env (shell.fill (fill shells e))).run t =
            (resolve env (shell.fill (fill shells e'))).run t
          rw [outer, outer, Walk.run_bind, Walk.run_bind, inner e e']
    | past none outer =>
      apply Passage.past
      · intro v hv
        cases hv with
        | inside hu _ => exact none _ hu
      · intro e e'
        exact outer (fill shells e) (fill shells e')

/-- The innermost of several shells is reached through the other ones. -/
lemma reaches_append {shells : List Shell} {shell : Shell} {t v : Trace} :
    Reaches env (shells ++ [shell]) t v ↔ ∃ u, Reaches env shells t u ∧ shell.Arrives env u v := by
  induction shells generalizing t with
  | nil =>
    constructor
    · intro h
      cases h with
      | inside hu hv =>
        cases hv
        exact ⟨_, .here, hu⟩
    · rintro ⟨u, ⟨⟩, hv⟩
      exact .inside hv .here
  | cons first shells ih =>
    constructor
    · intro h
      cases h with
      | inside hu hv =>
        obtain ⟨w, hw, hv⟩ := ih.1 hv
        exact ⟨w, .inside hu hw, hv⟩
    · rintro ⟨w, hw, hv⟩
      cases hw with
      | inside hu hw => exact .inside hu (ih.2 ⟨w, hw, hv⟩)

/-- Expressions that resolve alike at the start are evaluated alike. -/
lemma evaluate_congr {e e' : Expr} (source : Option String)
    (h : (resolve env e).run .empty = (resolve env e').run .empty) :
    env.evaluate e source = env.evaluate e' source := by
  rw [Environment.evaluate, Environment.evaluate, consume, consume, Walk.run_bind, Walk.run_bind, h]

/-- Where evaluation comes to a part that fails, the whole fails as the part does. -/
lemma Reaches.evaluate_failed {shells : List Shell} {e : Expr} {f : Failure} {u v : Trace}
    (source : Option String) (h : Reaches env shells .empty u)
    (failed : (resolve env e).run u = (.error f, v)) :
    env.evaluate (fill shells e) source = ⟨.error (.failed f source), v.requests⟩ := by
  cases resolve_fill env shells .empty with
  | past none _ => exact absurd h (none u)
  | @through w behind hw same =>
    obtain rfl := h.unique hw
    have whole : (resolve env (fill shells e)).run .empty = (.error f, v) := by
      rw [same, Walk.run_bind, failed]
    rw [Environment.evaluate, consume, Walk.run_bind, whole]

/-- A part that evaluation does not come to makes no difference. -/
lemma evaluate_unreached {shells : List Shell} (source : Option String)
    (h : ∀ t, ¬ Reaches env shells .empty t) (e e' : Expr) :
    env.evaluate (fill shells e) source = env.evaluate (fill shells e') source := by
  cases resolve_fill env shells .empty with
  | through _ hu _ => exact absurd hu (h _)
  | past _ same => exact evaluate_congr source (same e e')

/-- Whatever can be replaced by anything is not come to: two parts that fail in different ways would
make a difference. -/
lemma unreached_of_evaluate {shells : List Shell} (source : Option String)
    (h : ∀ e e', env.evaluate (fill shells e) source = env.evaluate (fill shells e') source) (t : Trace) :
    ¬ Reaches env shells .empty t := by
  intro ht
  have one := ht.evaluate_failed source (e := .hole "") rfl
  have other := ht.evaluate_failed source (e := .hole "x") rfl
  have same := (one.symm.trans (h _ _)).trans other
  simp at same

/-- The right side of a logical operator is not reached if its left side stops the operator whenever it is
resolved. -/
lemma reaches_right {around : List Shell} {op : Operator} {stop : Bool} {left : Expr} {t : Trace}
    (h : op.stopsAt = some stop) :
    (∀ v, ¬ Reaches env (around ++ [.right op left]) t v) ↔
      ∀ u a v, Reaches env around t u → Resolves env left u a v → a.value.isTruthy = stop := by
  constructor
  · intro none u a v hu ha
    apply Decidable.byContradiction
    intro goes
    refine none _ (reaches_append.2 ⟨u, hu, .right ha fun decided => ?_⟩)
    rw [h] at decided
    exact goes (Option.some.inj decided).symm
  · intro decided w hw
    obtain ⟨u, hu, hr⟩ := reaches_append.1 hw
    cases hr with
    | right ha goes =>
      apply goes
      rw [h, decided u _ _ hu ha]

end Runs

/-- The right operand of a logical operator, wherever it stands, can be replaced by anything without a
difference in the value, the consumed paths, the hashes asked for or the failure exactly if evaluation
does not come to it; and that is so exactly if the operator is not reached, or its left operand fails or
has the truth value at which it stops. -/
theorem unreached_operand_unobservable (env : Environment) (around : List Shell) {op : Operator}
    {stop : Bool} (h : op.stopsAt = some stop) (left : Expr) (source : Option String) :
    ((∀ t, ¬ Reaches env (around ++ [.right op left]) .empty t) ↔
      ∀ right right', env.evaluate (fill around (.binary op left right)) source =
        env.evaluate (fill around (.binary op left right')) source) ∧
    ((∀ t, ¬ Reaches env (around ++ [.right op left]) .empty t) ↔
      ∀ t a u, Reaches env around .empty t → Resolves env left t a u → a.value.isTruthy = stop) := by
  have filled (right : Expr) :
      fill around (.binary op left right) = fill (around ++ [.right op left]) right := by
    rw [fill, fill, List.foldr_append]
    rfl
  refine ⟨⟨fun unreached right right' => ?_, fun same => ?_⟩, reaches_right h⟩
  · rw [filled, filled]
    exact evaluate_unreached source unreached right right'
  · apply unreached_of_evaluate source
    intro right right'
    rw [← filled, ← filled]
    exact same right right'

/-- Inside a negation, a conjunction that stops at its left operand does not look at its right one. -/
theorem unreached_operand_unobservable_negation :
    let env : Environment := {}
    Operator.and.stopsAt = some false ∧
      ∀ right right', env.evaluate (.not (.binary .and (.literal .null) right)) none =
        env.evaluate (.not (.binary .and (.literal .null) right')) none := by
  intro env
  have stops : Operator.and.stopsAt = some false := rfl
  have law := unreached_operand_unobservable env [.not] stops (.literal .null) none
  refine ⟨stops, law.1.1 (law.2.2 ?_)⟩
  intro t a u _ ha
  obtain ⟨rfl, -⟩ := resolves_literal.1 ha
  rfl

end WorkflowExpr
