import WorkflowExpr.Proofs.Distinct
import WorkflowExpr.Proofs.Evaluation.Walk

/-!
# Consumed paths as instrumentation

Two evaluators stand beside the one that leaves a trace. The untraced one follows the same rules and
carries neither paths nor a trace. The accounting one writes down each path that is consumed, in order
and as often as it is. Evaluation yields what the untraced evaluator yields, and its list of consumed
paths is the account with each path kept where it first occurs.
-/

namespace WorkflowExpr

namespace Untraced

/-- The value of a context root; a root that the context does not have is an empty object. -/
def root (env : Environment) (name : String) : Except Failure Value :=
  if name ∈ Root.names then
    .ok (((env.context.find? fun entry => entry.1 == name).map (·.2)).getD (.object []))
  else .error (.unknownContext name Root.names)

/-- A member by its name: of an object, or of every element of an array. -/
def property (base : Value) (name : String) : Except Failure Value := do
  match base with
  | .object members =>
    match Value.member? (.text name) members with
    | some value => return value
    | none =>
      if let some limit := members.findSome? fun entry => entry.1.limit? then throw (.beyond limit)
      throw (.unknownProperty name none (members.map fun entry => entry.1.display))
  | .array items => return .array (items.map (Resolved.projected name))
  | scalar => throw (.noProperties name (← scalar.kind) none)

/-- An element of an array. The index is coerced to a number and its fraction dropped. -/
def element (base position : Value) : Except Failure Value := do
  match base with
  | .array items =>
    let number ← position.toNumber
    if !number.isFinite then throw (.indexNotFinite (← position.toJsonText))
    let index := number.truncate
    match if index < 0 then none else items[index.toNat]? with
    | some value => return value
    | none => throw (.indexOutOfRange index items.length)
  | other => throw (.noElements (← other.kind))

/-- The elements of an array or the members of an object; a scalar has no parts. -/
def parts (base : Value) : Except Failure Value := do
  match base with
  | .array items => return .array items
  | .object members => return .array (members.map (·.2))
  | scalar =>
    let _ ← scalar.kind
    return .array []

mutual

/-- The value of an expression. -/
def value (env : Environment) : Expr → Except Failure Value
  | .literal value => return value
  | .root name => root env name
  | .property base name => do property (← value env base) name
  | .index base position => do
    let base ← value env base
    let position ← value env position
    element base position
  | .wildcard base => do parts (← value env base)
  | .call name args => do
    let f ← env.library.get name
    let args ← values env args
    (f.apply env.host args).result
  | .not operand => do
    let operand ← value env operand
    return .boolean !operand.isTruthy
  | .binary .and left right => do
    let left ← value env left
    if left.isTruthy then value env right else return left
  | .binary .or left right => do
    let left ← value env left
    if left.isTruthy then return left else value env right
  | .binary .equal left right => do
    let left ← value env left
    let right ← value env right
    return .boolean (← left.looseEquals right)
  | .binary .notEqual left right => do
    let left ← value env left
    let right ← value env right
    return .boolean !(← left.looseEquals right)
  | .binary (.relation r) left right => do
    let left ← value env left
    let right ← value env right
    return .boolean (← compareOrder r left right)
  | .hole typeName => throw (.unknownNode typeName)

/-- The values of expressions from left to right. -/
def values (env : Environment) : List Expr → Except Failure (List Value)
  | [] => return []
  | arg :: rest => do
    let first ← value env arg
    return first :: (← values env rest)

end

/-- The value of an expression, if it has a kind. -/
def evaluate (env : Environment) (e : Expr) : Except Failure Value := do
  let value ← value env e
  let _ ← value.kind
  return value

end Untraced

/-- What a step of an evaluation consumes, each path as often as it is consumed, and its result. -/
structure Account (α : Type) where
  paths : List String
  result : Except Failure α

namespace Account

instance : Monad Account where
  pure a := ⟨[], .ok a⟩
  bind account f :=
    match account.result with
    | .ok a => ⟨account.paths ++ (f a).paths, (f a).result⟩
    | .error failure => ⟨account.paths, .error failure⟩

/-- Consumes a value with the given path. -/
def note (path : Option String) : Account Unit :=
  ⟨path.toList, .ok ()⟩

/-- Goes on with a result that consumes nothing. -/
def of {α : Type} (result : Except Failure α) : Account α :=
  ⟨[], result⟩

end Account

mutual

/-- The account of resolving an expression. -/
def account (env : Environment) : Expr → Account Resolved
  | .literal value => pure (.computed value)
  | .root name => .of (env.root name)
  | .property base name => do
    let base ← account env base
    .of (base.property name)
  | .index base position => do
    let base ← account env base
    let position ← account env position
    .note position.path
    .of (base.element position.value)
  | .wildcard base => do
    let base ← account env base
    .of base.parts
  | .call name args => do
    let f ← .of (env.library.get name)
    let args ← accountAll env args
    return .computed (← .of (f.apply env.host args).result)
  | .not operand => do
    let operand ← account env operand
    .note operand.path
    return .computed (.boolean !operand.value.isTruthy)
  | .binary .and left right => do
    let left ← account env left
    .note left.path
    if left.value.isTruthy then account env right else return left
  | .binary .or left right => do
    let left ← account env left
    .note left.path
    if left.value.isTruthy then return left else account env right
  | .binary .equal left right => do
    let left ← account env left
    .note left.path
    let right ← account env right
    .note right.path
    return .computed (.boolean (← .of (left.value.looseEquals right.value)))
  | .binary .notEqual left right => do
    let left ← account env left
    .note left.path
    let right ← account env right
    .note right.path
    return .computed (.boolean !(← .of (left.value.looseEquals right.value)))
  | .binary (.relation r) left right => do
    let left ← account env left
    .note left.path
    let right ← account env right
    .note right.path
    return .computed (.boolean (← .of (compareOrder r left.value right.value)))
  | .hole typeName => .of (throw (.unknownNode typeName))

/-- The account of consuming expressions from left to right. -/
def accountAll (env : Environment) : List Expr → Account (List Value)
  | [] => pure []
  | arg :: rest => do
    let resolved ← account env arg
    .note resolved.path
    return resolved.value :: (← accountAll env rest)

end

/-- The account of consuming an expression. -/
def consumption (env : Environment) (e : Expr) : Account Value := do
  let resolved ← account env e
  .note resolved.path
  return resolved.value

/-- Paths with one more behind them, unless it is among them. -/
def keep (hits : List String) (path : String) : List String :=
  if path ∈ hits then hits else hits ++ [path]

/-- A record adds its path to the hits unless it is there. -/
lemma Trace.hits_record (t : Trace) (path : Option String) :
    (t.record path).hits = path.toList.foldl keep t.hits := by
  cases path with
  | none => rfl
  | some p =>
    rw [record, Option.toList_some, List.foldl_cons, List.foldl_nil, keep]
    split
    · rfl
    · rfl

/-- Keeping paths puts those behind the others that are new, each where it first occurs. -/
lemma foldl_keep (paths hits : List String) :
    paths.foldl keep hits = hits ++ (paths.removeAll hits).eraseDups := by
  induction paths generalizing hits with
  | nil => simp [List.removeAll]
  | cons p paths ih =>
    rw [List.foldl_cons, ih, keep]
    by_cases known : p ∈ hits
    · simp [known, List.removeAll]
    · have rest : paths.removeAll (hits ++ [p]) =
          (paths.removeAll hits).filter fun q => !q == p := by
        rw [List.removeAll, List.removeAll, List.filter_filter]
        refine List.filter_congr fun q _ => ?_
        by_cases same : q = p <;> simp [same]
      have first : (p :: paths).removeAll hits = p :: paths.removeAll hits := by
        simp [List.removeAll, known]
      rw [if_neg known, rest, first, List.eraseDups_cons, List.append_assoc, List.singleton_append]

/-- Two results agree: both fail in ways of one kind, or what they yield is related. -/
inductive SameKind {α β : Type} (R : α → β → Prop) : Except Failure α → Except Failure β → Prop where
  | ok {a b} :
    R a b →
    SameKind R (.ok a) (.ok b)
  | error {e f} :
    e.kind = f.kind →
    SameKind R (.error e) (.error f)

/-- A resolved value, without its path. -/
def Resolved.Gives (r : Resolved) (v : Value) : Prop :=
  r.value = v

section Accesses

variable (base : Resolved)

/-- A result is of the same kind as itself. -/
lemma sameKind_self {α : Type} (x : Except Failure α) : SameKind Eq x x := by
  cases x with
  | ok => exact .ok rfl
  | error => exact .error rfl

/-- A root has the value that it has without a trace, or fails with the same kind. -/
lemma root_untraced (env : Environment) (name : String) :
    SameKind Resolved.Gives (env.root name) (Untraced.root env name) := by
  unfold Environment.root Untraced.root
  split
  · exact .ok rfl
  · exact .error rfl

/-- A failed access names the path of its base, which its kind does not depend on. -/
lemma property_untraced (name : String) :
    SameKind Resolved.Gives (base.property name) (Untraced.property base.value name) := by
  obtain ⟨v, path⟩ := base
  cases v with
  | object members =>
    unfold Resolved.property Untraced.property
    dsimp only
    cases Value.member? (.text name) members with
    | some => exact .ok rfl
    | none => cases members.findSome? fun entry => entry.1.limit? <;> exact .error rfl
  | array => exact .ok rfl
  | _ => exact .error rfl

/-- An element has the value that it has without a trace, or fails with the same kind. -/
lemma element_untraced (position : Value) :
    SameKind Resolved.Gives (base.element position) (Untraced.element base.value position) := by
  obtain ⟨v, path⟩ := base
  cases v with
  | array items =>
    unfold Resolved.element Untraced.element
    dsimp only
    cases position.toNumber with
    | error => exact .error rfl
    | ok number =>
      simp only [bind, Except.bind]
      cases number.isFinite with
      | false => cases position.toJsonText <;> exact .error rfl
      | true =>
        cases (if number.truncate < 0 then none else items[number.truncate.toNat]?) with
        | some => exact .ok rfl
        | none => exact .error rfl
  | _ => exact .error rfl

/-- The parts have the values that they have without a trace, or fail with the same kind. -/
lemma parts_untraced :
    SameKind Resolved.Gives base.parts (Untraced.parts base.value) := by
  obtain ⟨v, path⟩ := base
  cases v with
  | foreign => exact .error rfl
  | _ => exact .ok rfl

end Accesses

namespace Walk

variable {α β γ δ : Type} {R : α → β → Prop} {S : γ → δ → Prop}

/-- A walk does what an account of it says, whatever it starts from, and the account ends as an untraced
result does. -/
def Instruments (R : α → β → Prop) (m : Walk α) (account : Account α) (plain : Except Failure β) :
    Prop :=
  (∀ t, (m.run t).1 = account.result ∧ (m.run t).2.hits = account.paths.foldl keep t.hits) ∧
    SameKind R account.result plain

/-- A walk that only yields a value has an empty account. -/
lemma instruments_pure {a : α} {b : β} (h : R a b) : Instruments R (pure a) (pure a) (pure b) :=
  ⟨fun _ => ⟨rfl, rfl⟩, .ok h⟩

/-- A step that leaves no trace has an empty account. -/
lemma instruments_of {x : Except Failure α} {y : Except Failure β} (h : SameKind R x y) :
    Instruments R (Walk.of x) (.of x) y := by
  refine ⟨fun t => ?_, h⟩
  cases x with
  | ok => exact ⟨rfl, rfl⟩
  | error => exact ⟨rfl, rfl⟩

/-- Walks one after the other have their accounts one after the other. -/
lemma Instruments.bind {m : Walk α} {account : Account α} {plain : Except Failure β}
    {f : α → Walk γ} {g : α → Account γ} {k : β → Except Failure δ}
    (h : Instruments R m account plain)
    (hf : ∀ a b, R a b → Instruments S (f a) (g a) (k b)) :
    Instruments S (m >>= f) (account >>= g) (plain >>= k) := by
  obtain ⟨runs, same⟩ := h
  obtain ⟨paths, result⟩ := account
  cases (show SameKind R result plain from same) with
  | @ok a b hab =>
    obtain ⟨next, last⟩ := hf a b hab
    refine ⟨fun t => ?_, last⟩
    obtain ⟨value, hits⟩ := runs t
    rw [run_bind]
    generalize m.run t = x at value hits
    obtain ⟨x, t₁⟩ := x
    obtain rfl : x = .ok a := value
    have hits₁ : t₁.hits = paths.foldl keep t.hits := hits
    obtain ⟨value₂, hits₂⟩ := next t₁
    refine ⟨value₂, ?_⟩
    show ((f a).run t₁).2.hits = (paths ++ (g a).paths).foldl keep t.hits
    rw [hits₂, hits₁, List.foldl_append]
  | error he =>
    refine ⟨fun t => ?_, .error he⟩
    obtain ⟨value, hits⟩ := runs t
    rw [run_bind]
    generalize m.run t = x at value hits
    obtain ⟨x, t₁⟩ := x
    obtain rfl : x = .error _ := value
    exact ⟨rfl, hits⟩

/-- What is consumed first is an entry of the account, and nothing to the untraced result. -/
lemma Instruments.record {path : Option String} {m : Walk α} {account : Account α}
    {plain : Except Failure β} (h : Instruments R m account plain) :
    Instruments R (Walk.record path >>= fun _ => m) (Account.note path >>= fun _ => account) plain := by
  obtain ⟨runs, same⟩ := h
  refine ⟨fun t => ?_, same⟩
  obtain ⟨value, hits⟩ := runs (t.record path)
  refine ⟨value, ?_⟩
  show (m.run (t.record path)).2.hits = (path.toList ++ account.paths).foldl keep t.hits
  rw [hits, t.hits_record, List.foldl_append]

/-- The hashes asked for are no matter of the account. -/
lemma Instruments.ask {requests : List (List String)} {m : Walk α} {account : Account α}
    {plain : Except Failure β} (h : Instruments R m account plain) :
    Instruments R (Walk.ask requests >>= fun _ => m) account plain :=
  ⟨fun t => h.1 (t.ask requests), h.2⟩

/-- A comparison consumes both operands. -/
lemma Instruments.compare {m m' : Walk Resolved} {a a' : Account Resolved}
    {x x' : Except Failure Value} (hl : Instruments Resolved.Gives m a x)
    (hr : Instruments Resolved.Gives m' a' x') (compare : Value → Value → Except Failure Bool)
    (finish : Bool → Bool) :
    Instruments Resolved.Gives
      (m >>= fun l => Walk.record l.path >>= fun _ => m' >>= fun r => Walk.record r.path >>= fun _ =>
        Walk.of (compare l.value r.value) >>= fun b =>
          pure (Resolved.computed (.boolean (finish b))))
      (a >>= fun l => Account.note l.path >>= fun _ => a' >>= fun r =>
        Account.note r.path >>= fun _ => Account.of (compare l.value r.value) >>= fun b =>
          pure (Resolved.computed (.boolean (finish b))))
      (x >>= fun l => x' >>= fun r => compare l r >>= fun b =>
        pure (Value.boolean (finish b))) := by
  refine hl.bind fun l _ h => ?_
  subst h
  refine Instruments.record (hr.bind fun r _ h => ?_)
  subst h
  refine Instruments.record ((instruments_of (sameKind_self _)).bind fun b _ h => ?_)
  subst h
  exact instruments_pure rfl

end Walk

mutual

/-- By induction on the expression: each rule of the three evaluators is the same but for what it notes. -/
theorem resolve_instruments (env : Environment) : (e : Expr) →
    (resolve env e).Instruments Resolved.Gives (account env e) (Untraced.value env e)
  | .literal _ => Walk.instruments_pure rfl
  | .root name => Walk.instruments_of (root_untraced env name)
  | .property base name =>
    (resolve_instruments env base).bind fun b _ h => by
      subst h
      exact Walk.instruments_of (property_untraced b name)
  | .index base position =>
    (resolve_instruments env base).bind fun b _ hb =>
      (resolve_instruments env position).bind fun p _ hp => by
        subst hb hp
        exact (Walk.instruments_of (element_untraced b p.value)).record
  | .wildcard base =>
    (resolve_instruments env base).bind fun b _ h => by
      subst h
      exact Walk.instruments_of (parts_untraced b)
  | .call name args => by
    refine (Walk.instruments_of (sameKind_self _)).bind fun f _ hf => ?_
    subst hf
    refine (resolveAll_instruments env args).bind fun vs _ hs => ?_
    subst hs
    refine Walk.Instruments.ask ?_
    cases (f.apply env.host vs).result with
    | ok v => exact Walk.instruments_pure rfl
    | error => exact Walk.instruments_of (.error rfl)
  | .not operand => (resolve_instruments env operand).bind fun o _ h => by
    subst h
    have negated : (Resolved.computed (.boolean !o.value.isTruthy)).Gives (.boolean !o.value.isTruthy) := rfl
    exact (Walk.instruments_pure negated).record
  | .binary .and left right => (resolve_instruments env left).bind fun a _ h => by
    subst h
    refine Walk.Instruments.record ?_
    -- All three test the same value, so all stop or none does.
    split
    · exact resolve_instruments env right
    · exact Walk.instruments_pure rfl
  | .binary .or left right => (resolve_instruments env left).bind fun a _ h => by
    subst h
    refine Walk.Instruments.record ?_
    split
    · exact Walk.instruments_pure rfl
    · exact resolve_instruments env right
  | .binary .equal left right =>
    Walk.Instruments.compare (resolve_instruments env left) (resolve_instruments env right)
      Value.looseEquals id
  | .binary .notEqual left right =>
    Walk.Instruments.compare (resolve_instruments env left) (resolve_instruments env right)
      Value.looseEquals (!·)
  | .binary (.relation r) left right =>
    Walk.Instruments.compare (resolve_instruments env left) (resolve_instruments env right)
      (compareOrder r) id
  | .hole _ => Walk.instruments_of (.error rfl)

/-- A list of expressions is resolved with the account of its items. -/
theorem resolveAll_instruments (env : Environment) : (es : List Expr) →
    (resolveAll env es).Instruments Eq (accountAll env es) (Untraced.values env es)
  | [] => Walk.instruments_pure rfl
  | e :: es => (resolve_instruments env e).bind fun a _ h => by
    subst h
    exact ((resolveAll_instruments env es).bind fun vs _ hs => Walk.instruments_pure (hs ▸ rfl)).record

end

/-- An expression is consumed with the account of its consumption. -/
lemma consume_instruments (env : Environment) (e : Expr) :
    (consume env e).Instruments Eq (consumption env e) (Untraced.value env e) := by
  have consumed (r : Resolved) (v : Value) (h : r.Gives v) :
      Walk.Instruments Eq (Walk.record r.path >>= fun _ => pure r.value)
        (Account.note r.path >>= fun _ => pure r.value) (pure v) := by
    have value : r.value = v := h
    exact (Walk.instruments_pure value).record
  have whole := (resolve_instruments env e).bind consumed
  rwa [bind_pure] at whole

/-- A walk comes to the same result from every trace, and puts the paths it consumes behind those that
were consumed before: none that is there already, and none twice. -/
def Walk.Appends {α : Type} (m : Walk α) : Prop :=
  ∀ t u, (m.run t).1 = (m.run u).1 ∧
    ∃ new, (m.run t).2.hits = t.hits ++ new ∧ new.Nodup ∧ ∀ path ∈ new, path ∉ t.hits

/-- A walk with an account only appends to the trace. -/
lemma Walk.Instruments.appends {α β : Type} {R : α → β → Prop} {m : Walk α} {account : Account α}
    {plain : Except Failure β} (h : m.Instruments R account plain) : m.Appends := by
  intro t u
  refine ⟨(h.1 t).1.trans (h.1 u).1.symm, (account.paths.removeAll t.hits).eraseDups, ?_, ?_, ?_⟩
  · rw [(h.1 t).2, foldl_keep]
  · exact nodup_eraseDups _
  · intro path mem
    simpa [List.removeAll] using (List.mem_filter.1 (List.mem_eraseDups.1 mem)).2

/-- Evaluation ends as the untraced evaluator does, with the same value or in a failure of the same kind,
and its list of consumed paths is the account of them, each where it first occurs. Whatever is resolved
or consumed on the way only adds to the paths consumed before, and does not depend on them. -/
theorem evaluate_instrumented (env : Environment) (e : Expr) (source : Option String) :
    ((env.evaluate e source).result.map fun x => (x.value, x.hits)).mapError ExpressionError.kind =
      ((Untraced.evaluate env e).map fun v => (v, (consumption env e).paths.eraseDups)).mapError
        Failure.kind ∧
    ∀ part, (resolve env part).Appends ∧ (consume env part).Appends := by
  refine ⟨?_, fun part => ⟨(resolve_instruments env part).appends,
    (consume_instruments env part).appends⟩⟩
  obtain ⟨runs, same⟩ := consume_instruments env e
  obtain ⟨result, hits⟩ := runs .empty
  rw [foldl_keep] at hits
  rw [Environment.evaluate, Untraced.evaluate]
  generalize (consume env e).run .empty = x at result hits
  generalize consumption env e = account at same result hits ⊢
  generalize Untraced.value env e = plain at same ⊢
  obtain ⟨x, t⟩ := x
  obtain ⟨paths, _⟩ := account
  obtain rfl : x = _ := result
  have kept : t.hits = paths.eraseDups := by
    rw [hits, Trace.empty, List.nil_append, List.removeAll_nil]
  cases (show SameKind Eq x plain from same) with
  | error he => exact congrArg Except.error he
  | @ok v _ h =>
    subst h
    -- A value without a kind is refused at the end, whatever was consumed.
    simp only [bind, Except.bind]
    cases v.kind with
    | error => rfl
    | ok =>
      rw [kept]
      rfl

end WorkflowExpr
