import WorkflowExpr.Proofs.Evaluation.Access
import WorkflowExpr.Proofs.Evaluation.Walk
import WorkflowExpr.Proofs.Value.Doubled

/-!
# Evaluation of doubles

Two contexts that differ only in which numbers are host integers and which are doubles are not told apart:
every evaluation goes the same way on both, and ends alike.
-/

namespace WorkflowExpr

open Value

section Functions

/-- The texts of values do not tell integers from doubles. -/
lemma texts_doubled (items : List Value) :
    Standard.texts (items.map doubled) = Standard.texts items := by
  induction items with
  | nil => rfl
  | cons item rest ih => rw [List.map_cons, Standard.texts, Standard.texts, toText_doubled, ih]

/-- The search for an equal item does not tell integers from doubles. -/
lemma anyEqual_doubled (value : Value) (items : List Value) :
    Standard.anyEqual value.doubled (items.map doubled) = Standard.anyEqual value items := by
  induction items with
  | nil => rfl
  | cons item rest ih =>
    rw [List.map_cons, Standard.anyEqual, Standard.anyEqual, looseEquals_doubled, ih]

/-- The function `contains` does not tell integers from doubles. -/
lemma containsItem_doubled (search item : Value) :
    Standard.containsItem search.doubled item.doubled = Standard.containsItem search item := by
  cases search with
  | array items =>
    rw [doubled, doubledItems_eq_map, Standard.containsItem, Standard.containsItem, anyEqual_doubled]
  | integer n =>
    simp only [doubled, Standard.containsItem, toText_doubled, toText_real_ofInt]
  | _ => simp only [doubled, Standard.containsItem, toText_doubled]

/-- What is put in the place of a placeholder does not tell integers from doubles. -/
lemma replacement_doubled (values : List Value) (digits : List Char) :
    Format.replacement (values.map doubled) digits = Format.replacement values digits := by
  have named : Format.named? (values.map doubled) digits = (Format.named? values digits).map doubled := by
    unfold Format.named?
    dsimp only
    split
    · rfl
    · exact List.getElem?_map ..
  rw [Format.replacement, Format.replacement, named]
  cases Format.named? values digits with
  | none => rfl
  | some v => simp only [Option.map_some, toText_doubled]

/-- The function `format` does not tell integers from doubles. -/
lemma substitute_doubled (values : List Value) (cs : List Char) :
    Format.substitute (values.map doubled) cs = Format.substitute values cs := by
  fun_induction Format.substitute values cs with
  | case1 => rw [Format.substitute]
  | case2 c rest digits hd ih =>
    rw [dite_eq_ite] at hd
    rw [Format.substitute, hd]
    simp only [replacement_doubled, ih]
  | case3 c rest hd ih =>
    rw [dite_eq_ite] at hd
    rw [Format.substitute, hd]
    simp only [ih]

/-- The argument at a position is doubled with the arguments. -/
lemma argument_doubled (args : List Value) (i : Nat) :
    Standard.argument (args.map doubled) i = (Standard.argument args i).doubled := by
  rw [Standard.argument, Standard.argument, List.getD_eq_getElem?_getD, List.getD_eq_getElem?_getD,
    List.getElem?_map]
  cases args[i]? with
  | none => rfl
  | some v => rfl

/-- The function `join` does not tell integers from doubles. -/
lemma join_doubled (items : Value) (separator : Option Value) :
    Standard.join items.doubled (separator.map doubled) = Standard.join items separator := by
  cases separator with
  | _ =>
    cases items with
    | array items =>
      simp only [doubled, doubledItems_eq_map, Standard.join, Option.map, texts_doubled, toText_doubled]
    | integer n =>
      simp only [doubled, Standard.join, Option.map, toText_doubled, toText_real_ofInt]
    | object members =>
      have none (members : List (Key × Value)) :
          (object members).toText = .error (.noText .object) := rfl
      simp only [doubled, Standard.join, Option.map, toText_doubled, none]
    | _ => simp only [doubled, Standard.join, Option.map, toText_doubled]

/-- The function `hashFiles` does not tell integers from doubles, and asks for the same patterns. -/
lemma hashFiles_doubled (host : Capabilities) (patterns : List Value) :
    Standard.hashFiles host (patterns.map doubled) = Standard.hashFiles host patterns := by
  rw [Standard.hashFiles, Standard.hashFiles, texts_doubled]

/-- No standard function tells integers from their doubles. -/
lemma library_doubled :
    ∀ f ∈ Standard.library.functions, ∀ host args, f.run host (args.map doubled) = f.run host args := by
  have plain {name : String} {least : Int} {most : Option Int} {run : List Value → Except Failure Value}
      (h : ∀ args, run (args.map doubled) = run args) : ∀ host args,
      (Standard.plain name least most run).run host (args.map doubled) =
        (Standard.plain name least most run).run host args :=
    fun _ args => congrArg Reply.pure (h args)
  rw [Standard.library]
  simp only [List.forall_mem_cons]
  refine ⟨plain ?contains, plain ?startsWith, plain ?endsWith, plain ?format, plain ?join,
    plain ?toJSON, plain ?fromJSON, fun _ _ => rfl, fun _ _ => rfl, fun _ _ => rfl, fun _ _ => rfl,
    hashFiles_doubled, List.forall_mem_nil _⟩
  case contains =>
    intro args
    rw [argument_doubled, argument_doubled, containsItem_doubled]
  case startsWith =>
    intro args
    simp only [argument_doubled, Standard.startsWith, toText_doubled]
  case endsWith =>
    intro args
    simp only [argument_doubled, Standard.endsWith, toText_doubled]
  case format =>
    intro args
    simp only [argument_doubled, Standard.format, toText_doubled, ← List.map_drop, substitute_doubled]
  case join =>
    intro args
    rw [argument_doubled, List.getElem?_map, join_doubled]
  case toJSON =>
    intro args
    simp only [argument_doubled, Standard.toJson, toJsonText_doubled]
  case fromJSON =>
    intro args
    simp only [argument_doubled, Standard.fromJson, toText_doubled]

end Functions

/-- A resolved value with its integers replaced by their doubles. -/
def Resolved.doubled (r : Resolved) : Resolved :=
  ⟨r.value.doubled, r.path⟩

section Accesses

variable (base : Resolved)

/-- The member of a projected item is doubled with the item. -/
lemma projected_doubled (name : String) (v : Value) :
    Resolved.projected name v.doubled = (Resolved.projected name v).doubled := by
  cases v with
  | object members =>
    rw [doubled, doubledMembers_eq_map, Resolved.projected, Resolved.projected, member_doubled]
    cases member? (.text name) members with
    | none => rfl
    | some v => rfl
  | _ => rfl

/-- A property of a doubled base is the doubled property, or fails alike. -/
lemma property_doubled (name : String) :
    base.doubled.property name = (base.property name).map Resolved.doubled := by
  obtain ⟨v, path⟩ := base
  cases v with
  | object members =>
    simp only [Resolved.doubled, doubled, doubledMembers_eq_map, Resolved.property, member_doubled,
      List.findSome?_map, List.map_map, Function.comp_def]
    cases member? (.text name) members with
    | some v => rfl
    | none => cases members.findSome? fun entry => entry.1.limit? <;> rfl
  | array items =>
    simp only [Resolved.doubled, doubled, doubledItems_eq_map, Resolved.property, List.map_map,
      Function.comp_def, projected_doubled]
    simp [Except.map, pure, Except.pure, Resolved.doubled, doubled]
  | _ => rfl

/-- An element of a doubled base is the doubled element, or fails alike. -/
lemma element_doubled (position : Value) :
    base.doubled.element position.doubled = (base.element position).map Resolved.doubled := by
  obtain ⟨v, path⟩ := base
  cases v with
  | array items =>
    have part (n : Int) : (if n < 0 then none else items[n.toNat]?.map doubled) =
        (if n < 0 then none else items[n.toNat]?).map doubled := by
      split <;> rfl
    simp only [Resolved.doubled, doubled, doubledItems_eq_map, Resolved.element, toNumber_doubled,
      toJsonText_doubled, List.getElem?_map, List.length_map, part]
    cases position.toNumber with
    | error => rfl
    | ok number =>
      simp only [bind, Except.bind]
      cases number.isFinite with
      | false => cases position.toJsonText <;> rfl
      | true => cases (if number.truncate < 0 then none else items[number.truncate.toNat]?) <;> rfl
  | _ => rfl

/-- The parts of a doubled base are the doubled parts, or fail alike. -/
lemma parts_doubled : base.doubled.parts = base.parts.map Resolved.doubled := by
  obtain ⟨v, path⟩ := base
  cases v with
  | array items =>
    simp [Resolved.doubled, doubled, Resolved.parts, Except.map, pure, Except.pure, bind, Except.bind]
  | object members =>
    simp [Resolved.doubled, doubled, Resolved.parts, Except.map, pure, Except.pure, bind, Except.bind]
  | _ => rfl

/-- A comparison by order does not tell integers from doubles. -/
lemma compareOrder_doubled (r : Relation) (v w : Value) :
    compareOrder r v.doubled w.doubled = compareOrder r v w := by
  have number (v : Value) : orderNumber r v.doubled = orderNumber r v := by
    simp only [orderNumber, kind_doubled, toNumber_doubled, toJsonText_doubled]
  rw [compareOrder, compareOrder, number, number]

end Accesses

/-- Two results are the same up to a relation: both fail in one way, or what they yield is related. -/
inductive SameResult {α β : Type} (R : α → β → Prop) : Except Failure α → Except Failure β → Prop where
  | ok {a b} :
    R a b →
    SameResult R (.ok a) (.ok b)
  | error {e} :
    SameResult R (.error e) (.error e)

namespace Walk

variable {α β γ δ : Type} {R : α → β → Prop} {S : γ → δ → Prop}

/-- Two walks are the same up to a relation: from every trace their results are, and the traces that they
leave are equal. -/
def Same (R : α → β → Prop) (m : Walk α) (m' : Walk β) : Prop :=
  ∀ t, SameResult R (m.run t).1 (m'.run t).1 ∧ (m.run t).2 = (m'.run t).2

/-- Walks that yield related values without a trace run the same. -/
lemma same_pure {a : α} {b : β} (h : R a b) : Same R (pure a) (pure b) :=
  fun _ => ⟨.ok h, rfl⟩

/-- Steps that have the same result run the same. -/
lemma same_of {x : Except Failure α} {y : Except Failure β} (h : SameResult R x y) :
    Same R (Walk.of x) (Walk.of y) := by
  intro t
  cases h with
  | ok h => exact ⟨.ok h, rfl⟩
  | error => exact ⟨.error, rfl⟩

/-- A walk runs the same as itself. -/
lemma same_self {m : Walk α} : Same Eq m m := by
  intro t
  refine ⟨?_, rfl⟩
  cases (m.run t).1 with
  | ok => exact .ok rfl
  | error => exact .error

/-- Walks that run the same go on to walks that run the same. -/
lemma Same.bind {m : Walk α} {m' : Walk β} {f : α → Walk γ} {f' : β → Walk δ} (h : Same R m m')
    (hf : ∀ a b, R a b → Same S (f a) (f' b)) : Same S (m >>= f) (m' >>= f') := by
  intro t
  obtain ⟨result, trace⟩ := h t
  rw [run_bind, run_bind]
  generalize m.run t = x at result trace
  generalize m'.run t = y at result trace
  obtain ⟨x, t₁⟩ := x
  obtain ⟨y, t₂⟩ := y
  obtain rfl : t₁ = t₂ := trace
  cases (show SameResult R x y from result) with
  | ok h => exact hf _ _ h t₁
  | error => exact ⟨.error, rfl⟩

/-- Where both walks consume the same path first, the rest of them decides. -/
lemma Same.record {path : Option String} {m : Walk γ} {m' : Walk δ} (h : Same S m m') :
    Same S (Walk.record path >>= fun _ => m) (Walk.record path >>= fun _ => m') :=
  same_self.bind fun _ _ _ => h

end Walk

/-- A context with the integers in its values replaced by their doubles. -/
def doubledContext (context : List (String × Value)) : List (String × Value) :=
  context.map fun entry => (entry.1, entry.2.doubled)

namespace Resolved

/-- Two resolved values differ only in which numbers are integers and which are doubles. -/
def Alike (a b : Resolved) : Prop :=
  a.doubled = b.doubled

variable {a b : Resolved}

/-- Alike values are the same when doubled. -/
lemma Alike.value (h : a.Alike b) : a.value.doubled = b.value.doubled :=
  congrArg Resolved.value h

/-- Alike values come from the same path. -/
lemma Alike.path (h : a.Alike b) : a.path = b.path :=
  show a.doubled.path = b.doubled.path from congrArg Resolved.path h

/-- Results that are the same when doubled are alike, or fail alike. -/
lemma sameResult_of_map {x y : Except Failure Resolved}
    (h : x.map Resolved.doubled = y.map Resolved.doubled) : SameResult Alike x y := by
  cases x with
  | error =>
    cases y with
    | error =>
      cases h
      exact .error
    | ok => cases h
  | ok =>
    cases y with
    | error => cases h
    | ok => exact .ok (Except.ok.inj h)

/-- A property of alike bases is alike, or fails alike. -/
lemma Alike.property (h : a.Alike b) (name : String) :
    SameResult Alike (a.property name) (b.property name) := by
  apply sameResult_of_map
  rw [← property_doubled, h, property_doubled]

/-- An element of alike bases at alike positions is alike, or fails alike. -/
lemma Alike.element {p q : Resolved} (h : a.Alike b) (hp : p.Alike q) :
    SameResult Alike (a.element p.value) (b.element q.value) := by
  apply sameResult_of_map
  rw [← element_doubled, h, hp.value, element_doubled]

/-- The parts of alike bases are alike, or fail alike. -/
lemma Alike.parts (h : a.Alike b) : SameResult Alike a.parts b.parts := by
  apply sameResult_of_map
  rw [← parts_doubled, h, parts_doubled]

end Resolved

/-- What a value's double determines is the same for two values with the same double. -/
lemma eq_of_doubled {α : Type} {f : Value → α} (hf : ∀ v, f v.doubled = f v) {v w : Value}
    (h : v.doubled = w.doubled) : f v = f w := by
  rw [← hf v, h, hf]

/-- A function of two values that does not tell integers from doubles does not tell alike values apart. -/
lemma eq_of_doubled₂ {α : Type} {f : Value → Value → α} (hf : ∀ v w, f v.doubled w.doubled = f v w)
    {v v' w w' : Value} (h : v.doubled = v'.doubled) (h' : w.doubled = w'.doubled) :
    f v w = f v' w' := by
  rw [← hf v w, h, h', hf]

/-- The same truth value is alike. -/
lemma alike_boolean {x y : Bool} (h : x = y) :
    (Resolved.computed (.boolean x)).Alike (.computed (.boolean y)) := by
  rw [h]
  rfl

/-- A comparison that does not tell integers from their doubles yields the same for alike operands. -/
lemma Walk.Same.compare {left left' right right' : Walk Resolved}
    {c : Value → Value → Except Failure Bool} (f : Bool → Bool)
    (hl : Walk.Same Resolved.Alike left left') (hr : Walk.Same Resolved.Alike right right')
    (hc : ∀ v w, c v.doubled w.doubled = c v w) :
    Walk.Same Resolved.Alike
      (left >>= fun a => Walk.record a.path >>= fun _ => right >>= fun b => Walk.record b.path >>= fun _ =>
        Walk.of (c a.value b.value) >>= fun x => pure (.computed (.boolean (f x))))
      (left' >>= fun a => Walk.record a.path >>= fun _ => right' >>= fun b => Walk.record b.path >>= fun _ =>
        Walk.of (c a.value b.value) >>= fun x => pure (.computed (.boolean (f x)))) := by
  refine hl.bind fun a a' ha => ?_
  rw [ha.path]
  refine Walk.Same.record (hr.bind fun b b' hb => ?_)
  rw [hb.path, eq_of_doubled₂ hc ha.value hb.value]
  exact Walk.Same.record (Walk.same_self.bind fun x y e => Walk.same_pure (alike_boolean (e ▸ rfl)))

/-- A standard function does not tell alike arguments apart. -/
lemma apply_doubled {name : String} {f : Function} (hf : Standard.library.get name = .ok f)
    (host : Capabilities) {vs ws : List Value} (h : vs.map doubled = ws.map doubled) :
    f.apply host vs = f.apply host ws := by
  have mem : f ∈ Standard.library.functions := Library.mem_of_get hf
  have length : vs.length = ws.length := by
    rw [← List.length_map doubled, h, List.length_map]
  rw [Function.apply, Function.apply, length, ← library_doubled f mem host vs, h,
    library_doubled f mem host ws]

section Runs

variable (context : List (String × Value)) (host : Capabilities)

/-- A root of a doubled context is alike to that of the context, or fails alike. -/
lemma root_doubled (name : String) :
    SameResult Resolved.Alike (({ context, host } : Environment).root name)
      (({ context := doubledContext context, host } : Environment).root name) := by
  unfold Environment.root
  split
  · refine .ok ?_
    rw [doubledContext, List.find?_map]
    show Resolved.Alike _ ⟨((((context.find? fun entry => entry.1 == name).map
      fun entry => (entry.1, entry.2.doubled)).map (·.2)).getD (.object [])), some name⟩
    rw [Resolved.Alike, Resolved.doubled, Resolved.doubled]
    cases context.find? fun entry => entry.1 == name with
    | none => rfl
    | some entry => exact congrArg (Resolved.mk · (some name)) (doubled_doubled entry.2).symm
  · exact .error

mutual

/-- An expression resolves alike on both contexts. -/
theorem resolve_doubled : (e : Expr) →
    (resolve { context, host } e).Same Resolved.Alike
      (resolve { context := doubledContext context, host } e)
  | .literal _ => Walk.same_pure rfl
  | .root name => Walk.same_of (root_doubled context host name)
  | .property base name =>
    (resolve_doubled base).bind fun _ _ h => Walk.same_of (h.property name)
  | .index base position =>
    (resolve_doubled base).bind fun a b h => (resolve_doubled position).bind fun p q hp => by
      rw [hp.path]
      exact Walk.Same.record (Walk.same_of (h.element hp))
  | .wildcard base => (resolve_doubled base).bind fun _ _ h => Walk.same_of h.parts
  | .call name args => by
    have found : (Walk.of (Standard.library.get name)).Same
        (fun f g => f = g ∧ Standard.library.get name = .ok f) (Walk.of (Standard.library.get name)) := by
      apply Walk.same_of
      cases Standard.library.get name with
      | ok f => exact .ok ⟨rfl, rfl⟩
      | error => exact .error
    -- The function is the same on both sides, and does not tell alike arguments apart.
    refine found.bind fun f g hf => (resolveAll_doubled args).bind fun vs ws hs => ?_
    obtain ⟨rfl, hf⟩ := hf
    rw [apply_doubled hf host hs]
    exact Walk.same_self.bind fun _ _ _ => Walk.same_self.bind fun v w e => Walk.same_pure (e ▸ rfl)
  | .not operand => (resolve_doubled operand).bind fun a b h => by
    rw [h.path]
    exact Walk.Same.record (Walk.same_pure (alike_boolean
      (congrArg (!·) (eq_of_doubled isTruthy_doubled h.value))))
  | .binary .and left right => (resolve_doubled left).bind fun a b h => by
    rw [h.path, eq_of_doubled isTruthy_doubled h.value]
    refine Walk.Same.record ?_
    -- Alike values are true together, so both sides stop or none does.
    split
    · exact resolve_doubled right
    · exact Walk.same_pure h
  | .binary .or left right => (resolve_doubled left).bind fun a b h => by
    rw [h.path, eq_of_doubled isTruthy_doubled h.value]
    refine Walk.Same.record ?_
    split
    · exact Walk.same_pure h
    · exact resolve_doubled right
  | .binary .equal left right =>
    Walk.Same.compare id (resolve_doubled left) (resolve_doubled right) looseEquals_doubled
  | .binary .notEqual left right =>
    Walk.Same.compare (!·) (resolve_doubled left) (resolve_doubled right) looseEquals_doubled
  | .binary (.relation r) left right =>
    Walk.Same.compare id (resolve_doubled left) (resolve_doubled right) (compareOrder_doubled r)
  | .hole _ => fun _ => ⟨.error, rfl⟩

/-- A list of expressions is resolved to alike values, item by item. -/
theorem resolveAll_doubled : (es : List Expr) →
    (resolveAll { context, host } es).Same (fun vs ws => vs.map doubled = ws.map doubled)
      (resolveAll { context := doubledContext context, host } es)
  | [] => Walk.same_pure rfl
  | e :: es => (resolve_doubled e).bind fun a b h => by
    rw [h.path]
    refine Walk.Same.record ((resolveAll_doubled es).bind fun vs ws hs => Walk.same_pure ?_)
    rw [List.map_cons, List.map_cons, h.value, hs]

end

/-- An expression is consumed to values that are the same when doubled. -/
lemma consume_doubled (e : Expr) :
    (consume { context, host } e).Same (fun v w => v.doubled = w.doubled)
      (consume { context := doubledContext context, host } e) :=
  (resolve_doubled context host e).bind fun a b h => by
    rw [h.path]
    exact Walk.Same.record (Walk.same_pure h.value)

end Runs

/-- Two results show the same: the same error, or values of one kind with the same JSON text, the same
text as a scalar, and the same consumed paths. -/
inductive ShowsSame : Except ExpressionError Evaluated → Except ExpressionError Evaluated → Prop where
  | ok {x y} :
    x.kind = y.kind →
    x.value.toJsonText = y.value.toJsonText →
    x.value.toText = y.value.toText →
    x.hits = y.hits →
    ShowsSame (.ok x) (.ok y)
  | error {e} :
    ShowsSame (.error e) (.error e)

/-- Evaluating on a context and on the same one with the doubles of its integers shows the same and asks
the host for the same. -/
theorem evaluate_doubled (context : List (String × Value)) (host : Capabilities) :
    let env : Environment := { context, host }
    let env' : Environment := { context := doubledContext context, host }
    (∀ e source, ShowsSame (env.evaluate e source).result (env'.evaluate e source).result ∧
      (env.evaluate e source).requests = (env'.evaluate e source).requests) ∧
    ∀ text limit, ShowsSame (env.evaluateText text limit).result (env'.evaluateText text limit).result ∧
      (env.evaluateText text limit).requests = (env'.evaluateText text limit).requests := by
  intro env env'
  have evaluated (e : Expr) (source : Option String) :
      ShowsSame (env.evaluate e source).result (env'.evaluate e source).result ∧
        (env.evaluate e source).requests = (env'.evaluate e source).requests := by
    obtain ⟨result, trace⟩ := consume_doubled context host e .empty
    rw [Environment.evaluate, Environment.evaluate]
    generalize (consume env e).run .empty = x at result trace
    generalize (consume env' e).run .empty = y at result trace
    obtain ⟨x, t⟩ := x
    obtain ⟨y, t'⟩ := y
    obtain rfl : t = t' := trace
    cases (show SameResult _ x y from result) with
    | error => exact ⟨.error, rfl⟩
    | @ok v w h =>
      have kind : v.kind = w.kind := eq_of_doubled kind_doubled h
      have json : v.toJsonText = w.toJsonText := eq_of_doubled toJsonText_doubled h
      have text : v.toText = w.toText := eq_of_doubled toText_doubled h
      dsimp only
      rw [kind]
      cases w.kind with
      | error => exact ⟨.error, rfl⟩
      | ok k => exact ⟨.ok rfl json text rfl, rfl⟩
  refine ⟨evaluated, fun text limit => ?_⟩
  rw [Environment.evaluateText, Environment.evaluateText]
  cases parse text limit with
  | error fault => exact ⟨.error, rfl⟩
  | ok parsed => exact evaluated parsed.root (some parsed.source)

end WorkflowExpr
