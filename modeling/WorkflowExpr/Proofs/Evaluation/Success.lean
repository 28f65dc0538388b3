import WorkflowExpr.Proofs.Evaluation.Replay
import WorkflowExpr.Proofs.Value.Shape

/-!
# What a success yields

A value of a shape comes out of a context whose values have that shape. A success always has a kind, but
only at its top: where the context holds something foreign deeper inside, so may the value, and it has no
JSON form then.
-/

namespace WorkflowExpr

section Functions

variable {K : List Key → Prop} {host : Capabilities} {args : List Value} {v : Value}

/-- What `contains` returns has every shape. -/
lemma containsItem_shaped {search item : Value} (h : Standard.containsItem search item = .ok v) :
    v.Shaped K := by
  unfold Standard.containsItem at h
  split at h
  · obtain ⟨b, -, ⟨⟩⟩ := bind_eq_ok.1 h
    exact .boolean
  · cases h
  · cases h
  · obtain ⟨_, -, h⟩ := bind_eq_ok.1 h
    obtain ⟨_, -, ⟨⟩⟩ := bind_eq_ok.1 h
    exact .boolean

/-- What `join` returns has every shape. -/
lemma join_shaped {items : Value} {separator : Option Value}
    (h : Standard.join items separator = .ok v) : v.Shaped K := by
  cases separator with
  | _ =>
    obtain ⟨between, -, h⟩ := bind_eq_ok.1 h
    cases items with
    | null =>
      cases h
      exact .string
    | _ =>
      obtain ⟨_, -, ⟨⟩⟩ := bind_eq_ok.1 h
      exact .string

/-- What `fromJSON` returns has every shape that all lists of texts satisfy. -/
lemma fromJson_shaped {text : Value} (texts : ∀ names : List String, K (names.map .text))
    (h : Standard.fromJson text = .ok v) : v.Shaped K := by
  obtain ⟨source, -, h⟩ := bind_eq_ok.1 h
  dsimp only at h
  split at h
  · cases h
    exact Value.shaped_ofJson texts _
  · cases h

/-- What `hashFiles` returns has every shape. -/
lemma hashFiles_shaped (h : (Standard.hashFiles host args).result = .ok v) : v.Shaped K := by
  unfold Standard.hashFiles at h
  split at h
  · cases h
  · split at h
    · cases h
    · split at h
      · cases h
        exact .string
      · cases h
      · cases h

/-- What a standard function returns has every shape that all lists of texts satisfy. -/
lemma library_shaped (texts : ∀ names : List String, K (names.map .text)) :
    ∀ f ∈ Standard.library.functions, ∀ host args v, (f.run host args).result = .ok v → v.Shaped K := by
  have status (name : String) (test : Option JobStatus → Bool) : ∀ host args v,
      ((Standard.ofStatus name test).run host args).result = .ok v → v.Shaped K := by
    rintro host args _ ⟨⟩
    exact .boolean
  -- Only fromJSON gives arrays and objects, and the keys of its objects are texts.
  rw [Standard.library]
  simp only [List.forall_mem_cons]
  refine ⟨?contains, ?startsWith, ?endsWith, ?format, ?join, ?toJSON, ?fromJSON, status _ _,
    status _ _, status _ _, status _ _, ?hashFiles, List.forall_mem_nil _⟩
  case contains => exact fun _ _ _ => containsItem_shaped
  case startsWith =>
    intro _ _ v h
    obtain ⟨_, -, h⟩ := bind_eq_ok.1 h
    obtain ⟨_, -, ⟨⟩⟩ := bind_eq_ok.1 h
    exact .boolean
  case endsWith =>
    intro _ _ v h
    obtain ⟨_, -, h⟩ := bind_eq_ok.1 h
    obtain ⟨_, -, ⟨⟩⟩ := bind_eq_ok.1 h
    exact .boolean
  case format =>
    intro _ _ v h
    obtain ⟨_, -, h⟩ := bind_eq_ok.1 h
    obtain ⟨_, -, ⟨⟩⟩ := bind_eq_ok.1 h
    exact .string
  case join => exact fun _ _ _ => join_shaped
  case toJSON =>
    intro _ _ v h
    obtain ⟨_, -, ⟨⟩⟩ := bind_eq_ok.1 h
    exact .string
  case fromJSON => exact fun _ _ _ => fromJson_shaped texts
  case hashFiles => exact fun _ _ _ => hashFiles_shaped

/-- What a standard function returns after the check of its arguments has every shape that all lists of texts
satisfy. -/
lemma apply_shaped {name : String} {f : Function} (texts : ∀ names : List String, K (names.map .text))
    (hf : Standard.library.get name = .ok f) (h : (f.apply host args).result = .ok v) :
    v.Shaped K := by
  unfold Function.apply at h
  split at h
  · exact library_shaped texts f (Library.mem_of_get hf) host args v h
  · cases h

end Functions

section Shapes

variable {K : List Key → Prop} {context : List (String × Value)} {host : Capabilities}

/-- A property of something of a shape has that shape. -/
lemma property_shaped {base r : Resolved} {name : String} (hb : base.value.Shaped K)
    (h : base.property name = .ok r) : r.value.Shaped K := by
  obtain ⟨members, v, hv, hm, rfl⟩ | ⟨items, hv, rfl⟩ := Resolved.property_ok.1 h
  · rw [hv] at hb
    exact hb.member hm
  · apply Value.Shaped.array
    intro item hi
    obtain ⟨origin, ho, rfl⟩ := List.mem_map.1 hi
    exact (hb.parts (by rw [hv]; rfl) origin ho).projected name

/-- An element of something of a shape has that shape. -/
lemma element_shaped {base r : Resolved} {position : Value} (hb : base.value.Shaped K)
    (h : base.element position = .ok r) : r.value.Shaped K := by
  obtain ⟨items, number, v, hv, -, -, -, hi, rfl⟩ := Resolved.element_ok.1 h
  exact hb.parts (by rw [hv]; rfl) v (List.mem_of_getElem? hi)

/-- The parts of something of a shape have that shape. -/
lemma parts_shaped {base r : Resolved} (hb : base.value.Shaped K) (h : base.parts = .ok r) :
    r.value.Shaped K := by
  obtain ⟨items, hi, rfl⟩ := Resolved.parts_ok.1 h
  exact .array (hb.parts hi)

/-- A root has the shape of what the context holds; a root that is not there is an empty object. -/
lemma root_shaped {name : String} {r : Resolved} (none : K [])
    (hc : ∀ entry ∈ context, entry.2.Shaped K)
    (h : ({ context, host } : Environment).root name = .ok r) : r.value.Shaped K := by
  unfold Environment.root at h
  split at h
  · cases h
    dsimp only
    cases hf : context.find? fun entry => entry.1 == name with
    | none => exact .object none (List.forall_mem_nil _)
    | some entry => exact hc entry (List.mem_of_find?_eq_some hf)
  · cases h

/-- What an expression resolves to has the shape that its literals and the values of the context have. -/
theorem Resolves.shaped {t t' : Trace} {r : Resolved}
    (texts : ∀ names : List String, K (names.map .text)) (hc : ∀ entry ∈ context, entry.2.Shaped K) :
    (e : Expr) → (∀ v, .literal v ∈ e.nodes → v.Shaped K) →
      Resolves { context, host } e t r t' → r.value.Shaped K
  | .literal v, hl, h => by
    obtain ⟨rfl, -⟩ := resolves_literal.1 h
    exact hl v (List.mem_singleton_self _)
  | .root _, _, h => by
    obtain ⟨hr, -⟩ := resolves_root.1 h
    exact root_shaped (texts []) hc hr
  | .property base _, hl, h => by
    obtain ⟨b, _, hb, hr, -⟩ := resolves_property.1 h
    exact property_shaped
      (Resolves.shaped texts hc base (fun v hv => hl v (List.mem_cons_of_mem _ hv)) hb) hr
  | .index base position, hl, h => by
    obtain ⟨b, t₁, hb, p, t₂, -, hr, -⟩ := resolves_index.1 h
    exact element_shaped (Resolves.shaped texts hc base
      (fun v hv => hl v (List.mem_cons_of_mem _ (List.mem_append_left _ hv))) hb) hr
  | .wildcard base, hl, h => by
    obtain ⟨b, _, hb, hr, -⟩ := resolves_wildcard.1 h
    exact parts_shaped
      (Resolves.shaped texts hc base (fun v hv => hl v (List.mem_cons_of_mem _ hv)) hb) hr
  | .call _ _, _, h => by
    obtain ⟨f, hf, vs, t₁, -, v, hv, rfl, -⟩ := resolves_call.1 h
    exact apply_shaped texts hf hv
  | .not _, _, h => by
    obtain ⟨o, t₁, -, rfl, -⟩ := resolves_not.1 h
    exact .boolean
  | .binary op left right, hl, h => by
    -- A logical operator gives one of its operands, a comparison gives a boolean.
    obtain ⟨stop, hs⟩ | ⟨compare, hc'⟩ := op.stops_or_compares
    · obtain ⟨a, t₁, ha, ⟨-, rfl, -⟩ | ⟨-, hb⟩⟩ := (resolves_logical hs).1 h
      · exact Resolves.shaped texts hc left
          (fun v hv => hl v (List.mem_cons_of_mem _ (List.mem_append_left _ hv))) ha
      · exact Resolves.shaped texts hc right
          (fun v hv => hl v (List.mem_cons_of_mem _ (List.mem_append_right _ hv))) hb
    · obtain ⟨a, t₁, -, b, t₂, -, x, -, rfl, -⟩ := (resolves_comparison hc').1 h
      exact .boolean
  | .hole _, _, h => absurd h not_resolves_hole

/-- Literals that are read from a text have every shape. -/
lemma parse_shaped {text : String} {limit : Int} {parsed : Parsed}
    (h : parse text limit = .ok parsed) : ∀ v, .literal v ∈ parsed.root.nodes → v.Shaped K :=
  parse_literals h .null (fun _ => .boolean) (fun _ => .string) fun _ _ _ => .real

/-- The value of a success has every shape that the values of the context have and all lists of texts satisfy. -/
lemma evaluateText_shaped {text : String} {limit : Int} {x : Evaluated}
    (texts : ∀ names : List String, K (names.map .text)) (hc : ∀ entry ∈ context, entry.2.Shaped K)
    (h : (({ context, host } : Environment).evaluateText text limit).result = .ok x) :
    x.value.Shaped K := by
  obtain ⟨parsed, hp, he⟩ := evaluateText_eq_ok.1 h
  obtain ⟨a, t₁, ha, -, hv, -⟩ := evaluate_eq_ok.1 he
  rw [hv]
  exact ha.shaped texts hc _ (parse_shaped hp)

end Shapes

/-- A value has a JSON text when it can be written. -/
lemma Value.exists_toJsonText_iff (v : Value) : (∃ s, v.toJsonText = .ok s) ↔ v.Writable := by
  rw [← exists_toJson_iff]
  constructor
  · rintro ⟨s, h⟩
    obtain ⟨j, hj, -⟩ := bind_eq_ok.1 h
    exact ⟨j, hj⟩
  · rintro ⟨j, hj⟩
    exact ⟨_, bind_eq_ok.2 ⟨j, hj, rfl⟩⟩

/-- A foreign value is refused with an error of type. -/
lemma Foreign.kind_refusal (f : Foreign) : f.refusal.kind = .type := by
  cases f with
  | _ => rfl

/-- A success has the kind of its value, and a JSON text exactly if the value is one of the language with
keys that can be written, as it is in a context of such values. What is foreign at its top is reported as
a failure of type. -/
theorem evaluateText_success (context : List (String × Value)) (host : Capabilities) (text : String)
    (limit : Int) :
    let env : Environment := { context, host }
    (∀ x, (env.evaluateText text limit).result = .ok x →
      x.value.kind = .ok x.kind ∧
      ((∃ s, x.value.toJsonText = .ok s) ↔ x.value.Writable) ∧
      ((∀ entry ∈ context, entry.2.InModel) → x.value.InModel) ∧
      ((∀ entry ∈ context, entry.2.Writable) → x.value.Writable)) ∧
    ∀ parsed a t f, parse text limit = .ok parsed → Resolves env parsed.root .empty a t →
      a.value = .foreign f →
      ∃ error, (env.evaluateText text limit).result = .error error ∧ error.kind = .type := by
  intro env
  constructor
  · intro x hx
    obtain ⟨parsed, hp, he⟩ := evaluateText_eq_ok.1 hx
    obtain ⟨a, t₁, ha, hk, hv, -⟩ := evaluate_eq_ok.1 he
    refine ⟨hv ▸ hk, x.value.exists_toJsonText_iff, fun hc => ?_, fun hc => ?_⟩
    · have shaped : ∀ entry ∈ context, entry.2.Shaped fun _ => True :=
        fun entry mem => Value.shaped_true_iff.2 (hc entry mem)
      exact (evaluateText_shaped (fun _ => trivial) shaped hx).inModel
    · refine evaluateText_shaped (fun names key hk => ?_) hc hx
      obtain ⟨name, -, rfl⟩ := List.mem_map.1 hk
      rfl
  · intro parsed a t f hp ha hf
    -- The foreign value is found when all is done, and the failure does not know the text.
    refine ⟨.failed f.refusal none, ?_, f.kind_refusal⟩
    have consumed : (consume env parsed.root).run .empty = (.ok (.foreign f), t.record a.path) :=
      consume_yields.2 ⟨a, t, ha, hf.symm, rfl⟩
    rw [Environment.evaluateText, hp]
    dsimp only
    rw [Environment.evaluate, consumed]
    rfl

/-- The name of a root is read as that root. -/
lemma parse_github : parse "github" = .ok ⟨"github", .root "github"⟩ := by
  have ithub : "ithub".toList.all Lexeme.isNameChar = true := by decide
  have name : IsName "github" := ⟨⟨'g', _, rfl, rfl, List.all_eq_true.1 ithub⟩, by decide⟩
  have fit : (1 : Int) ≤ defaultDepth := by decide
  exact Place.parse_text (.root ⟨"github", name⟩) fit

/-- A value that holds something foreign below its top is a success without a JSON text. -/
theorem evaluateText_success_nested :
    let value : Value := .object [(.text "d", .foreign (.other "date"))]
    let env : Environment := { context := [("github", value)] }
    (env.evaluateText "github").result = .ok ⟨value, .object, ["github"]⟩ ∧ ¬ value.InModel ∧
      ¬ ∃ s, value.toJsonText = .ok s := by
  have foreign : ¬ (Value.object [(.text "d", .foreign (.other "date"))]).InModel := by
    rintro (_ | _ | _ | _ | _ | _ | hs)
    nomatch hs _ (List.mem_singleton_self _)
  intro value env
  have root : Resolves env (.root "github") .empty ⟨value, some "github"⟩ .empty :=
    resolves_root.2 ⟨rfl, rfl⟩
  refine ⟨?_, foreign, ?_⟩
  · exact evaluateText_eq_ok.2 ⟨_, parse_github, evaluate_eq_ok.2 ⟨_, _, root, rfl, rfl, rfl⟩⟩
  · rw [Value.exists_toJsonText_iff]
    exact fun writable => foreign writable.inModel

/-- A root that is foreign itself is a failure of type. -/
theorem evaluateText_success_root :
    let env : Environment := { context := [("github", .foreign (.other "date"))] }
    ∃ error, (env.evaluateText "github").result = .error error ∧ error.kind = .type := by
  intro env
  have root : Resolves env (.root "github") .empty ⟨.foreign (.other "date"), some "github"⟩ .empty :=
    resolves_root.2 ⟨rfl, rfl⟩
  exact (evaluateText_success _ {} "github" defaultDepth).2 _ _ _ _ parse_github root rfl

end WorkflowExpr
