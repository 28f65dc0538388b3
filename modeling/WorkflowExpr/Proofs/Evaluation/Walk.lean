import Mathlib.Tactic.Lemma
import WorkflowExpr.Evaluation.Result

/-!
# Successful walks

What it takes for a walk to succeed: first for the steps that walks are made of, and then for each form
of expression, in terms of the walks over its parts. Later proofs use these and never open `resolve`.

A walk only adds to the paths that were consumed before it.
-/

namespace WorkflowExpr

/-- A walk goes from one trace to another and yields something. -/
def Walk.Yields {α : Type} (m : Walk α) (t : Trace) (a : α) (t' : Trace) : Prop :=
  m.run t = (.ok a, t')

namespace Walk

variable {α β : Type} {t t' : Trace}

/-- A walk that only yields a value leaves the trace as it is. -/
lemma yields_pure {a b : α} : (pure a : Walk α).Yields t b t' ↔ b = a ∧ t' = t := by
  constructor
  · intro h
    cases h
    exact ⟨rfl, rfl⟩
  · rintro ⟨rfl, rfl⟩
    rfl

/-- Two walks in a row: the second goes on where the first one ended, if that did not fail. -/
lemma run_bind (m : Walk α) (f : α → Walk β) (t : Trace) :
    (m >>= f).run t =
      match m.run t with
      | (.ok a, t₁) => (f a).run t₁
      | (.error e, t₁) => (.error e, t₁) := by
  change ExceptT.bindCont f (m.run t).1 (m.run t).2 = _
  obtain ⟨_ | _, _⟩ := m.run t <;> rfl

/-- Two walks in a row succeed when both do, the second from where the first one ended. -/
lemma yields_bind {m : Walk α} {f : α → Walk β} {b : β} :
    (m >>= f).Yields t b t' ↔ ∃ a t₁, m.Yields t a t₁ ∧ (f a).Yields t₁ b t' := by
  rw [Yields, run_bind]
  constructor
  · intro h
    match hm : m.run t with
    | (.ok a, t₁) =>
      rw [hm] at h
      exact ⟨a, t₁, hm, h⟩
    | (.error e, t₁) =>
      rw [hm] at h
      cases h
  · rintro ⟨a, t₁, hm, hf⟩
    rw [Yields] at hm
    rw [hm]
    exact hf

/-- A step without a trace yields what its result is. -/
lemma yields_of {r : Except Failure α} {a : α} : (Walk.of r).Yields t a t' ↔ r = .ok a ∧ t' = t := by
  cases r with
  | ok => rw [Walk.of, yields_pure, Except.ok.injEq, eq_comm]
  | error =>
    refine ⟨fun h => ?_, fun h => ?_⟩
    · cases h
    · cases h.1

/-- A record yields nothing but the trace with the path. -/
lemma yields_record {path : Option String} {u : Unit} :
    (Walk.record path).Yields t u t' ↔ t' = t.record path := by
  constructor
  · intro h
    cases h
    rfl
  · rintro rfl
    rfl

/-- A request yields nothing but the trace with the request. -/
lemma yields_ask {requests : List (List String)} {u : Unit} :
    (Walk.ask requests).Yields t u t' ↔ t' = t.ask requests := by
  constructor
  · intro h
    cases h
    rfl
  · rintro rfl
    rfl

/-- A walk that starts with a step without a trace goes on from the same trace. -/
lemma yields_of_bind {r : Except Failure α} {f : α → Walk β} {b : β} :
    (Walk.of r >>= f).Yields t b t' ↔ ∃ a, r = .ok a ∧ (f a).Yields t b t' := by
  rw [yields_bind]
  constructor
  · rintro ⟨a, t₁, hr, h⟩
    obtain ⟨ha, rfl⟩ := yields_of.1 hr
    exact ⟨a, ha, h⟩
  · rintro ⟨a, ha, h⟩
    exact ⟨a, t, yields_of.2 ⟨ha, rfl⟩, h⟩

/-- A walk that starts with a record goes on from the trace with the path. -/
lemma yields_record_bind {path : Option String} {m : Walk β} {b : β} :
    (Walk.record path >>= fun _ => m).Yields t b t' ↔ m.Yields (t.record path) b t' := by
  rw [yields_bind]
  constructor
  · rintro ⟨_, t₁, hr, h⟩
    obtain rfl := yields_record.1 hr
    exact h
  · intro h
    exact ⟨(), _, yields_record.2 rfl, h⟩

/-- A walk that starts with a request goes on from the trace with the request. -/
lemma yields_ask_bind {requests : List (List String)} {m : Walk β} {b : β} :
    (Walk.ask requests >>= fun _ => m).Yields t b t' ↔ m.Yields (t.ask requests) b t' := by
  rw [yields_bind]
  constructor
  · rintro ⟨_, t₁, hr, h⟩
    obtain rfl := yields_ask.1 hr
    exact h
  · intro h
    exact ⟨(), _, yields_ask.2 rfl, h⟩

end Walk

/-- The truth value of the left operand at which a logical operator stops. -/
def Operator.stopsAt : Operator → Option Bool
  | and => some false
  | or => some true
  | _ => none

/-- The comparison that an operator makes. -/
def Operator.comparison : Operator → Option (Value → Value → Except Failure Bool)
  | equal => some fun a b => a.looseEquals b
  | notEqual => some fun a b => (a.looseEquals b).map (!·)
  | relation r => some (compareOrder r)
  | _ => none

/-- An operator is a logical one or compares. -/
lemma Operator.stops_or_compares (op : Operator) :
    (∃ stop, op.stopsAt = some stop) ∨ ∃ compare, op.comparison = some compare := by
  cases op with
  | and => exact .inl ⟨_, rfl⟩
  | or => exact .inl ⟨_, rfl⟩
  | _ => exact .inr ⟨_, rfl⟩

/-- An operator that compares is not logical. -/
lemma Operator.stopsAt_eq_none {op : Operator} {compare : Value → Value → Except Failure Bool}
    (h : op.comparison = some compare) : op.stopsAt = none := by
  cases op with
  | and => cases h
  | or => cases h
  | _ => rfl

/-- An expression resolves: from one trace to a value with its path and another trace. -/
def Resolves (env : Environment) (e : Expr) (t : Trace) (r : Resolved) (t' : Trace) : Prop :=
  (resolve env e).Yields t r t'

/-- Expressions resolve and are consumed one after the other. -/
def ResolvesAll (env : Environment) (es : List Expr) (t : Trace) (vs : List Value) (t' : Trace) :
    Prop :=
  (resolveAll env es).Yields t vs t'

section Forms

variable {env : Environment} {t t' : Trace} {r : Resolved}

/-- A literal resolves to its value. -/
lemma resolves_literal {v : Value} :
    Resolves env (.literal v) t r t' ↔ r = .computed v ∧ t' = t := by
  show (pure (.computed v) : Walk Resolved).Yields t r t' ↔ _
  rw [Walk.yields_pure]

/-- A root resolves to what the environment has under its name. -/
lemma resolves_root {name : String} :
    Resolves env (.root name) t r t' ↔ env.root name = .ok r ∧ t' = t := by
  show (Walk.of (env.root name)).Yields t r t' ↔ _
  rw [Walk.yields_of]

/-- A property resolves to the property of what its base resolves to. -/
lemma resolves_property {base : Expr} {name : String} :
    Resolves env (.property base name) t r t' ↔
      ∃ b t₁, Resolves env base t b t₁ ∧ b.property name = .ok r ∧ t' = t₁ := by
  show (resolve env base >>= fun b => Walk.of (b.property name)).Yields t r t' ↔ _
  simp only [Walk.yields_bind, Walk.yields_of]
  rfl

/-- An element resolves when its base and its index do and the base has it; the index is consumed. -/
lemma resolves_index {base position : Expr} :
    Resolves env (.index base position) t r t' ↔
      ∃ b t₁, Resolves env base t b t₁ ∧ ∃ p t₂, Resolves env position t₁ p t₂ ∧
        b.element p.value = .ok r ∧ t' = t₂.record p.path := by
  show (resolve env base >>= fun b => resolve env position >>= fun p =>
    Walk.record p.path >>= fun _ => Walk.of (b.element p.value)).Yields t r t' ↔ _
  rw [Walk.yields_bind]
  simp only [Walk.yields_bind (m := resolve env position), Walk.yields_record_bind, Walk.yields_of]
  rfl

/-- A wildcard resolves to the parts of what its base resolves to. -/
lemma resolves_wildcard {base : Expr} :
    Resolves env (.wildcard base) t r t' ↔
      ∃ b t₁, Resolves env base t b t₁ ∧ b.parts = .ok r ∧ t' = t₁ := by
  show (resolve env base >>= fun b => Walk.of b.parts).Yields t r t' ↔ _
  simp only [Walk.yields_bind, Walk.yields_of]
  rfl

/-- A call resolves when its arguments do and the function has a value for them. -/
lemma resolves_call {name : String} {args : List Expr} :
    Resolves env (.call name args) t r t' ↔
      ∃ f, env.library.get name = .ok f ∧ ∃ vs t₁, ResolvesAll env args t vs t₁ ∧
        ∃ v, (f.apply env.host vs).result = .ok v ∧ r = .computed v ∧
          t' = t₁.ask (f.apply env.host vs).requests := by
  show (Walk.of (env.library.get name) >>= fun f => resolveAll env args >>= fun vs =>
    Walk.ask (f.apply env.host vs).requests >>= fun _ =>
      Walk.of (f.apply env.host vs).result >>= fun v =>
        pure (Resolved.computed v)).Yields t r t' ↔ _
  rw [Walk.yields_of_bind]
  refine exists_congr fun f => and_congr_right fun _ => ?_
  rw [Walk.yields_bind]
  simp only [Walk.yields_ask_bind, Walk.yields_of_bind, Walk.yields_pure]
  rfl

/-- A negation resolves to the opposite of what its operand is when it is consumed. -/
lemma resolves_not {operand : Expr} :
    Resolves env (.not operand) t r t' ↔
      ∃ o t₁, Resolves env operand t o t₁ ∧ r = .computed (.boolean !o.value.isTruthy) ∧
        t' = t₁.record o.path := by
  show (resolve env operand >>= fun o => Walk.record o.path >>= fun _ =>
    pure (Resolved.computed (.boolean !o.value.isTruthy))).Yields t r t' ↔ _
  rw [Walk.yields_bind]
  simp only [Walk.yields_record_bind, Walk.yields_pure]
  rfl

/-- A logical operator consumes its left side, and stops there or goes on to the right one. -/
lemma resolve_logical {op : Operator} {stop : Bool} {left right : Expr} (h : op.stopsAt = some stop) :
    resolve env (.binary op left right) =
      resolve env left >>= fun a => Walk.record a.path >>= fun _ =>
        if a.value.isTruthy = stop then pure a else resolve env right := by
  cases op with
  | and =>
    obtain rfl := Option.some.inj h
    -- A conjunction names the case in which it goes on, and not the one in which it stops.
    have other (a b : Walk Resolved) (x : Bool) :
        (if x = true then a else b) = if x = false then b else a := by
      cases x <;> rfl
    simp only [← other]
    rfl
  | or =>
    obtain rfl := Option.some.inj h
    rfl
  | _ => cases h

/-- A comparison consumes its sides, the left one first, and compares their values. -/
lemma resolve_comparison {op : Operator} {compare : Value → Value → Except Failure Bool}
    {left right : Expr} (h : op.comparison = some compare) :
    resolve env (.binary op left right) =
      resolve env left >>= fun a => Walk.record a.path >>= fun _ => resolve env right >>= fun b =>
        Walk.record b.path >>= fun _ => Walk.of (compare a.value b.value) >>= fun x =>
          pure (Resolved.computed (.boolean x)) := by
  cases op with
  | and => cases h
  | or => cases h
  | equal =>
    obtain rfl := Option.some.inj h
    rfl
  | relation =>
    obtain rfl := Option.some.inj h
    rfl
  | notEqual =>
    obtain rfl := Option.some.inj h
    -- The opposite of a comparison is taken after it, which makes no difference to its failures.
    have opposite (a b : Value) :
        (Walk.of (a.looseEquals b) >>= fun x => pure (Resolved.computed (.boolean !x))) =
          Walk.of ((a.looseEquals b).map (!·)) >>= fun x =>
            (pure (Resolved.computed (.boolean x)) : Walk Resolved) := by
      cases a.looseEquals b <;> rfl
    simp only [← opposite]
    rfl

/-- A logical operator consumes its left operand, and resolves to it or goes on with the right one. -/
lemma resolves_logical {op : Operator} {stop : Bool} {left right : Expr}
    (h : op.stopsAt = some stop) :
    Resolves env (.binary op left right) t r t' ↔
      ∃ a t₁, Resolves env left t a t₁ ∧
        (a.value.isTruthy = stop ∧ r = a ∧ t' = t₁.record a.path ∨
          a.value.isTruthy = !stop ∧ Resolves env right (t₁.record a.path) r t') := by
  rw [Resolves, resolve_logical h, Walk.yields_bind]
  refine exists_congr fun a => exists_congr fun t₁ => and_congr_right fun _ => ?_
  rw [Walk.yields_record_bind]
  by_cases stopped : a.value.isTruthy = stop
  · simp [stopped, Walk.yields_pure]
  · simp [Bool.eq_not_of_ne stopped, Resolves]

/-- A comparison consumes both operands, and resolves when they can be compared. -/
lemma resolves_comparison {op : Operator} {compare : Value → Value → Except Failure Bool}
    {left right : Expr} (h : op.comparison = some compare) :
    Resolves env (.binary op left right) t r t' ↔
      ∃ a t₁, Resolves env left t a t₁ ∧ ∃ b t₂, Resolves env right (t₁.record a.path) b t₂ ∧
        ∃ x, compare a.value b.value = .ok x ∧ r = .computed (.boolean x) ∧
          t' = t₂.record b.path := by
  rw [Resolves, resolve_comparison h, Walk.yields_bind]
  simp only [Walk.yields_record_bind, Walk.yields_bind (m := resolve env right), Walk.yields_of_bind,
    Walk.yields_pure]
  rfl

/-- A hole resolves to nothing. -/
lemma not_resolves_hole {typeName : String} : ¬ Resolves env (.hole typeName) t r t' := by
  show ¬ (throw (.unknownNode typeName) : Walk Resolved).Yields t r t'
  nofun

/-- No expressions resolve to no values. -/
lemma resolvesAll_nil {vs : List Value} : ResolvesAll env [] t vs t' ↔ vs = [] ∧ t' = t := by
  show (pure [] : Walk (List Value)).Yields t vs t' ↔ _
  rw [Walk.yields_pure]

/-- A list of expressions resolves to the value of the first one, consumed, and the values of the others. -/
lemma resolvesAll_cons {e : Expr} {es : List Expr} {vs : List Value} :
    ResolvesAll env (e :: es) t vs t' ↔
      ∃ a t₁, Resolves env e t a t₁ ∧ ∃ ws t₂, ResolvesAll env es (t₁.record a.path) ws t₂ ∧
        vs = a.value :: ws ∧ t' = t₂ := by
  show (resolve env e >>= fun a => Walk.record a.path >>= fun _ => resolveAll env es >>= fun ws =>
    pure (a.value :: ws)).Yields t vs t' ↔ _
  rw [Walk.yields_bind]
  simp only [Walk.yields_record_bind, Walk.yields_bind (m := resolveAll env es), Walk.yields_pure]
  rfl

/-- To consume an expression is to resolve it and record its path. -/
lemma consume_yields {e : Expr} {v : Value} :
    (consume env e).Yields t v t' ↔
      ∃ a t₁, Resolves env e t a t₁ ∧ v = a.value ∧ t' = t₁.record a.path := by
  rw [consume, Walk.yields_bind]
  simp only [Walk.yields_record_bind, Walk.yields_pure]
  rfl

/-- An expression is evaluated when it is consumed and its value has a kind. -/
lemma evaluate_eq_ok {e : Expr} {source : Option String} {x : Evaluated} :
    (env.evaluate e source).result = .ok x ↔
      ∃ a t₁, Resolves env e .empty a t₁ ∧ a.value.kind = .ok x.kind ∧ x.value = a.value ∧
        x.hits = (t₁.record a.path).hits := by
  -- The kind is told of the value after it is consumed, and adds nothing to the trace.
  have consumed : (env.evaluate e source).result = .ok x ↔
      ∃ v t', (consume env e).Yields .empty v t' ∧ v.kind = .ok x.kind ∧ x.value = v ∧
        x.hits = t'.hits := by
    obtain ⟨value, kind, hits⟩ := x
    rw [Environment.evaluate]
    match hr : (consume env e).run .empty with
    | (.error cause, trace) =>
      refine ⟨nofun, ?_⟩
      rintro ⟨v, t', hc, -⟩
      cases hr.symm.trans hc
    | (.ok v, trace) =>
      dsimp only
      constructor
      · intro h
        cases hk : v.kind with
        | error cause =>
          rw [hk] at h
          cases h
        | ok kind =>
          rw [hk] at h
          cases h
          exact ⟨_, trace, hr, hk, rfl, rfl⟩
      · rintro ⟨v', t', hc, hk, rfl, rfl⟩
        cases hr.symm.trans hc
        rw [hk]
  rw [consumed]
  constructor
  · rintro ⟨v, t', hc, hk, hv, hh⟩
    obtain ⟨a, t₁, ha, rfl, rfl⟩ := consume_yields.1 hc
    exact ⟨a, t₁, ha, hk, hv, hh⟩
  · rintro ⟨a, t₁, ha, hk, hv, hh⟩
    exact ⟨a.value, _, consume_yields.2 ⟨a, t₁, ha, rfl, rfl⟩, hk, hv, hh⟩

/-- A text is evaluated when it is parsed and what it is read into is evaluated. -/
lemma evaluateText_eq_ok {text : String} {limit : Int} {x : Evaluated} :
    (env.evaluateText text limit).result = .ok x ↔
      ∃ parsed, parse text limit = .ok parsed ∧
        (env.evaluate parsed.root (some parsed.source)).result = .ok x := by
  rw [Environment.evaluateText]
  cases parse text limit with
  | error fault => exact ⟨nofun, nofun⟩
  | ok parsed =>
    constructor
    · intro h
      exact ⟨parsed, rfl, h⟩
    · rintro ⟨_, ⟨⟩, h⟩
      exact h

end Forms

namespace Trace

/-- A record keeps the hits there are. -/
lemma hits_subset_record (t : Trace) (path : Option String) : t.hits ⊆ (t.record path).hits := by
  cases path with
  | none => exact List.Subset.refl _
  | some p =>
    rw [record]
    split
    · exact List.Subset.refl _
    · exact List.subset_append_left ..

/-- A path that was recorded is among the hits. -/
lemma mem_hits_record (t : Trace) (p : String) : p ∈ (t.record (some p)).hits := by
  rw [record]
  split
  · assumption
  · exact List.mem_append_right _ (List.mem_singleton_self p)

/-- Consuming adds one path at most. -/
lemma eq_or_mem_of_mem_record {t : Trace} {path : Option String} {p : String}
    (h : p ∈ (t.record path).hits) : path = some p ∨ p ∈ t.hits := by
  cases path with
  | none => exact .inr h
  | some q =>
    rw [record] at h
    split at h
    · exact .inr h
    · rcases List.mem_append.1 h with h | h
      · exact .inr h
      · exact .inl (congrArg some (List.mem_singleton.1 h).symm)

end Trace

mutual

/-- Resolving an expression keeps the paths consumed before. -/
theorem Resolves.hits_subset {env : Environment} {t t' : Trace} {r : Resolved} :
    (e : Expr) → Resolves env e t r t' → t.hits ⊆ t'.hits
  | .literal _, h => by
    obtain ⟨-, rfl⟩ := resolves_literal.1 h
    exact List.Subset.refl _
  | .root _, h => by
    obtain ⟨-, rfl⟩ := resolves_root.1 h
    exact List.Subset.refl _
  | .property base _, h => by
    obtain ⟨b, t₁, hb, -, rfl⟩ := resolves_property.1 h
    exact Resolves.hits_subset base hb
  | .index base position, h => by
    obtain ⟨b, t₁, hb, p, t₂, hp, -, rfl⟩ := resolves_index.1 h
    have first := List.Subset.trans (Resolves.hits_subset base hb) (Resolves.hits_subset position hp)
    exact List.Subset.trans first (t₂.hits_subset_record _)
  | .wildcard base, h => by
    obtain ⟨b, t₁, hb, -, rfl⟩ := resolves_wildcard.1 h
    exact Resolves.hits_subset base hb
  | .call _ args, h => by
    obtain ⟨f, -, vs, t₁, hvs, v, -, -, rfl⟩ := resolves_call.1 h
    have first : t.hits ⊆ t₁.hits := ResolvesAll.hits_subset args hvs
    exact first
  | .not operand, h => by
    obtain ⟨o, t₁, ho, -, rfl⟩ := resolves_not.1 h
    exact List.Subset.trans (Resolves.hits_subset operand ho) (t₁.hits_subset_record _)
  | .binary op left right, h => by
    obtain ⟨stop, hs⟩ | ⟨compare, hc⟩ := op.stops_or_compares
    · obtain ⟨a, t₁, ha, ⟨-, -, rfl⟩ | ⟨-, hb⟩⟩ := (resolves_logical hs).1 h
      · exact List.Subset.trans (Resolves.hits_subset left ha) (t₁.hits_subset_record _)
      · have first := List.Subset.trans (Resolves.hits_subset left ha) (t₁.hits_subset_record a.path)
        exact List.Subset.trans first (Resolves.hits_subset right hb)
    · obtain ⟨a, t₁, ha, b, t₂, hb, x, -, -, rfl⟩ := (resolves_comparison hc).1 h
      have first := List.Subset.trans (Resolves.hits_subset left ha) (t₁.hits_subset_record a.path)
      have second := List.Subset.trans first (Resolves.hits_subset right hb)
      exact List.Subset.trans second (t₂.hits_subset_record _)
  | .hole _, h => absurd h not_resolves_hole

/-- A list of expressions keeps the hits there are. -/
theorem ResolvesAll.hits_subset {env : Environment} {t t' : Trace} {vs : List Value} :
    (es : List Expr) → ResolvesAll env es t vs t' → t.hits ⊆ t'.hits
  | [], h => by
    obtain ⟨-, rfl⟩ := resolvesAll_nil.1 h
    exact List.Subset.refl _
  | e :: es, h => by
    obtain ⟨a, t₁, ha, ws, t₂, hws, -, rfl⟩ := resolvesAll_cons.1 h
    have first := List.Subset.trans (Resolves.hits_subset e ha) (t₁.hits_subset_record a.path)
    exact List.Subset.trans first (ResolvesAll.hits_subset es hws)

end

end WorkflowExpr
