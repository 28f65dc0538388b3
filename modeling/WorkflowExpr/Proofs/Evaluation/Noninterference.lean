import WorkflowExpr.Context.Snapshot
import WorkflowExpr.Proofs.Evaluation.Access
import WorkflowExpr.Proofs.Evaluation.Walk
import WorkflowExpr.Proofs.Expr.Name

/-!
# What is not consumed does not matter

An expression is evaluated on two snapshots that differ in one member of one root. If the paths that were
consumed on the first one show neither the whole root nor that member nor all members of the root, then
the second one gives the same value with the same paths.

The proof walks over the expression with both snapshots at once. A path that goes through the member, or
through all members of the root, is marked, and stays marked however it is extended. What an expression
resolves to on the first snapshot either has a marked path, or is the root itself, or is resolved to on
the second one as well; and only the last of these can be consumed without leaving a trace of the
difference.
-/

namespace WorkflowExpr

/-- The environment with a snapshot as its context. -/
def Environment.on (env : Environment) (s : Snapshot) : Environment :=
  { env with context := s.toContext }

/-- A text goes on with a further access, or ends. -/
def Continues (rest : String) : Prop :=
  ∀ c ∈ rest.toList.head?, c = '.' ∨ c = '['

/-- Paths are marked so that two snapshots agree on all that has no marked path, apart from the root
`r`. The names in question satisfy `N`. -/
structure Marks (s₁ s₂ : Snapshot) (r : Root) (N Marked : String → Prop) : Prop where
  others : ∀ q, q ≠ r → s₁.members q = s₂.members q
  member : ∀ name, N name → ¬ Marked (Resolved.memberPath r.name name) →
    Value.member? (.text name) (s₁.members r) = Value.member? (.text name) (s₂.members r)
  all : Marked (Resolved.allPath r.name)
  extend : ∀ path rest, Marked path → Continues rest → Marked (path ++ rest)

/-- A root of a snapshot is the object that it holds there. -/
lemma root_on {env : Environment} {s : Snapshot} {name : String} {a : Resolved} :
    (env.on s).root name = .ok a ↔
      ∃ q : Root, q.name = name ∧ a = ⟨.object (s.members q), some q.name⟩ := by
  have read (q : Root) :
      (env.on s).root q.name = .ok ⟨.object (s.members q), some q.name⟩ := by
    cases q <;> rfl
  constructor
  · intro h
    have mem : name ∈ Root.names := by
      unfold Environment.root at h
      split at h
      · assumption
      · cases h
    obtain ⟨q, -, rfl⟩ := List.mem_map.1 mem
    exact ⟨q, rfl, Except.ok.inj (h.symm.trans (read q))⟩
  · rintro ⟨q, rfl, rfl⟩
    exact read q

section TwoRuns

variable {env : Environment} {s₁ s₂ : Snapshot} {r : Root} {N Marked : String → Prop}

/-- What is resolved to on two snapshots is the same, or the root in which they differ. -/
def Agrees (s₁ s₂ : Snapshot) (r : Root) (a b : Resolved) : Prop :=
  b = a ∨
    a = ⟨.object (s₁.members r), some r.name⟩ ∧ b = ⟨.object (s₂.members r), some r.name⟩

/-- What an expression resolves to on one snapshot has a marked path, or the other snapshot agrees with
it. -/
def Follows (env : Environment) (s₁ s₂ : Snapshot) (r : Root) (Marked : String → Prop) (e : Expr)
    (t : Trace) (a : Resolved) (t' : Trace) : Prop :=
  (∃ path, a.path = some path ∧ Marked path) ∨
    ∃ b, Resolves (env.on s₂) e t b t' ∧ Agrees s₁ s₂ r a b

/-- No path consumed so far is that of the root or marked. -/
def Trace.Clean (r : Root) (Marked : String → Prop) (t : Trace) : Prop :=
  ∀ path ∈ t.hits, path ≠ r.name ∧ ¬ Marked path

/-- A trace is clean when one with more hits is. -/
lemma Trace.Clean.of_subset {t t' : Trace} (h : t'.Clean r Marked) (sub : t.hits ⊆ t'.hits) :
    t.Clean r Marked :=
  fun path hp => h path (sub hp)

/-- A trace is clean when it is with one more path recorded. -/
lemma Trace.Clean.of_record {t : Trace} {path : Option String}
    (h : (t.record path).Clean r Marked) : t.Clean r Marked :=
  h.of_subset (t.hits_subset_record path)

/-- What is consumed cleanly is resolved to on the other snapshot as well. -/
lemma Follows.consumed {e : Expr} {t t' : Trace} {a : Resolved}
    (h : Follows env s₁ s₂ r Marked e t a t') (clean : (t'.record a.path).Clean r Marked) :
    Resolves (env.on s₂) e t a t' := by
  have fresh (path : String) (hp : a.path = some path) : path ≠ r.name ∧ ¬ Marked path := by
    apply clean path
    rw [hp]
    exact t'.mem_hits_record path
  obtain ⟨path, hp, marked⟩ | ⟨b, hb, rfl | ⟨rfl, -⟩⟩ := h
  · exact absurd marked (fresh path hp).2
  · exact hb
  · exact absurd rfl (fresh r.name rfl).1

namespace Marks

variable (m : Marks s₁ s₂ r N Marked)

include m

/-- Marks carry over from a path to its members. -/
lemma memberPath {path : String} (name : String) (h : Marked path) :
    Marked (Resolved.memberPath path name) := by
  rw [Resolved.memberPath, String.append_assoc]
  apply m.extend path _ h
  rw [Continues, String.toList_append]
  rintro _ ⟨⟩
  exact .inl rfl

/-- Marks carry over from a path to all its parts. -/
lemma allPath {path : String} (h : Marked path) : Marked (Resolved.allPath path) := by
  apply m.extend path _ h
  rintro _ ⟨⟩
  exact .inl rfl

/-- Marks carry over from a path to its elements. -/
lemma elementPath {path : String} (index : Int) (h : Marked path) :
    Marked (Resolved.elementPath path index) := by
  rw [Resolved.elementPath, String.append_assoc, String.append_assoc]
  apply m.extend path _ h
  rw [Continues, String.toList_append]
  rintro _ ⟨⟩
  exact .inr rfl

/-- Marks carry over from a path to what is projected from it. -/
lemma projectedPath {path : String} (name : String) (h : Marked path) :
    Marked (Resolved.projectedPath path name) := by
  rw [Resolved.projectedPath]
  split
  · exact m.memberPath name h
  · exact m.memberPath name (m.allPath h)

/-- A root is the same on both snapshots or the root in which they differ. -/
lemma follows_root {name : String} {t : Trace} {a : Resolved} (h : (env.on s₁).root name = .ok a) :
    Follows env s₁ s₂ r Marked (.root name) t a t := by
  obtain ⟨q, rfl, rfl⟩ := root_on.1 h
  refine .inr ⟨_, resolves_root.2 ⟨root_on.2 ⟨q, rfl, rfl⟩, rfl⟩, ?_⟩
  by_cases hq : q = r
  · subst hq
    exact .inr ⟨rfl, rfl⟩
  · rw [m.others q hq]
    exact .inl rfl

/-- A property follows when its base does. -/
lemma follows_property {base : Expr} {name : String} {t t' : Trace} {a b : Resolved} (hn : N name)
    (hb : Follows env s₁ s₂ r Marked base t b t') (h : b.property name = .ok a) :
    Follows env s₁ s₂ r Marked (.property base name) t a t' := by
  obtain ⟨path, hp, marked⟩ | ⟨c, hc, rfl | ⟨rfl, rfl⟩⟩ := hb
  · obtain ⟨members, v, -, -, rfl⟩ | ⟨items, -, rfl⟩ := Resolved.property_ok.1 h
    · rw [hp]
      exact .inl ⟨_, rfl, m.memberPath name marked⟩
    · rw [hp]
      exact .inl ⟨_, rfl, m.projectedPath name marked⟩
  · exact .inr ⟨a, resolves_property.2 ⟨_, t', hc, h, rfl⟩, .inl rfl⟩
  · -- The base is the root itself: all that matters is whether this is the member in question.
    obtain ⟨members, v, ⟨⟩, hm, rfl⟩ | ⟨items, ⟨⟩, -⟩ := Resolved.property_ok.1 h
    by_cases marked : Marked (Resolved.memberPath r.name name)
    · exact .inl ⟨_, rfl, marked⟩
    · rw [m.member name hn marked] at hm
      refine .inr ⟨_, resolves_property.2 ⟨_, t', hc, Resolved.property_ok.2 (.inl ?_), rfl⟩, .inl rfl⟩
      exact ⟨_, v, rfl, hm, rfl⟩

/-- An element of what is followed is followed when its index is consumed cleanly. -/
lemma follows_index {base position : Expr} {t t₁ t₂ : Trace} {a b p : Resolved}
    (hb : Follows env s₁ s₂ r Marked base t b t₁) (hp : Resolves (env.on s₂) position t₁ p t₂)
    (h : b.element p.value = .ok a) :
    Follows env s₁ s₂ r Marked (.index base position) t a (t₂.record p.path) := by
  obtain ⟨path, hpath, marked⟩ | ⟨c, hc, rfl | ⟨rfl, rfl⟩⟩ := hb
  · obtain ⟨items, number, v, -, -, -, -, -, rfl⟩ := Resolved.element_ok.1 h
    rw [hpath]
    exact .inl ⟨_, rfl, m.elementPath _ marked⟩
  · exact .inr ⟨a, resolves_index.2 ⟨_, t₁, hc, p, t₂, hp, h, rfl⟩, .inl rfl⟩
  · -- A root is an object and has no elements.
    obtain ⟨items, number, v, ⟨⟩, -⟩ := Resolved.element_ok.1 h

/-- A wildcard follows when its base does. -/
lemma follows_wildcard {base : Expr} {t t' : Trace} {a b : Resolved}
    (hb : Follows env s₁ s₂ r Marked base t b t') (h : b.parts = .ok a) :
    Follows env s₁ s₂ r Marked (.wildcard base) t a t' := by
  obtain ⟨path, hp, marked⟩ | ⟨c, hc, rfl | ⟨rfl, rfl⟩⟩ := hb
  · obtain ⟨items, -, rfl⟩ := Resolved.parts_ok.1 h
    rw [hp]
    exact .inl ⟨_, rfl, m.allPath marked⟩
  · exact .inr ⟨a, resolves_wildcard.2 ⟨_, t', hc, h, rfl⟩, .inl rfl⟩
  · obtain ⟨items, -, rfl⟩ := Resolved.parts_ok.1 h
    exact .inl ⟨_, rfl, m.all⟩

end Marks

end TwoRuns

mutual

/-- What an expression resolves to on the first snapshot is followed on the second one, as long as all
that is consumed is clean. -/
theorem Resolves.follows {env : Environment} {s₁ s₂ : Snapshot} {r : Root} {N Marked : String → Prop}
    (m : Marks s₁ s₂ r N Marked) {t t' : Trace} {a : Resolved} :
    (e : Expr) → e.Named N → Resolves (env.on s₁) e t a t' → t'.Clean r Marked →
      Follows env s₁ s₂ r Marked e t a t'
  | .literal _, _, h, _ => by
    obtain ⟨rfl, rfl⟩ := resolves_literal.1 h
    exact .inr ⟨_, resolves_literal.2 ⟨rfl, rfl⟩, .inl rfl⟩
  | .root _, _, h, _ => by
    obtain ⟨hr, rfl⟩ := resolves_root.1 h
    exact m.follows_root hr
  | .property base _, hn, h, clean => by
    obtain ⟨b, _, hb, hr, rfl⟩ := resolves_property.1 h
    exact m.follows_property hn.2 (Resolves.follows m base hn.1 hb clean) hr
  | .index base position, hn, h, clean => by
    obtain ⟨b, t₁, hb, p, t₂, hp, hr, rfl⟩ := resolves_index.1 h
    have clean₂ : t₂.Clean r Marked := clean.of_record
    have clean₁ : t₁.Clean r Marked := clean₂.of_subset (hp.hits_subset position)
    have second := (Resolves.follows m position hn.2 hp clean₂).consumed clean
    exact m.follows_index (Resolves.follows m base hn.1 hb clean₁) second hr
  | .wildcard base, hn, h, clean => by
    obtain ⟨b, _, hb, hr, rfl⟩ := resolves_wildcard.1 h
    exact m.follows_wildcard (Resolves.follows m base hn hb clean) hr
  | .call _ args, hn, h, clean => by
    obtain ⟨f, hf, vs, t₁, hvs, v, hv, rfl, rfl⟩ := resolves_call.1 h
    have clean₁ : t₁.Clean r Marked := clean
    have second := ResolvesAll.follows m args hn hvs clean₁
    exact .inr ⟨_, resolves_call.2 ⟨f, hf, vs, t₁, second, v, hv, rfl, rfl⟩, .inl rfl⟩
  | .not operand, hn, h, clean => by
    obtain ⟨o, t₁, ho, rfl, rfl⟩ := resolves_not.1 h
    have clean₁ : t₁.Clean r Marked := clean.of_record
    have second := (Resolves.follows m operand hn ho clean₁).consumed clean
    exact .inr ⟨_, resolves_not.2 ⟨o, t₁, second, rfl, rfl⟩, .inl rfl⟩
  | .binary op left right, hn, h, clean => by
    obtain ⟨stop, hs⟩ | ⟨compare, hc⟩ := op.stops_or_compares
    · obtain ⟨x, t₁, hx, ⟨ht, rfl, rfl⟩ | ⟨ht, hy⟩⟩ := (resolves_logical hs).1 h
      · have clean₁ : t₁.Clean r Marked := clean.of_record
        have second := (Resolves.follows m left hn.1 hx clean₁).consumed clean
        exact .inr ⟨_, (resolves_logical hs).2 ⟨_, t₁, second, .inl ⟨ht, rfl, rfl⟩⟩, .inl rfl⟩
      · have recorded : (t₁.record x.path).Clean r Marked := clean.of_subset (hy.hits_subset right)
        have clean₁ : t₁.Clean r Marked := recorded.of_record
        have second := (Resolves.follows m left hn.1 hx clean₁).consumed recorded
        -- The right operand is not consumed here, but passed on with its path.
        obtain marked | ⟨y, hy', agree⟩ := Resolves.follows m right hn.2 hy clean
        · exact .inl marked
        · exact .inr ⟨y, (resolves_logical hs).2 ⟨_, t₁, second, .inr ⟨ht, hy'⟩⟩, agree⟩
    · obtain ⟨x, t₁, hx, y, t₂, hy, v, hv, rfl, rfl⟩ := (resolves_comparison hc).1 h
      have clean₂ : t₂.Clean r Marked := clean.of_record
      have recorded : (t₁.record x.path).Clean r Marked := clean₂.of_subset (hy.hits_subset right)
      have clean₁ : t₁.Clean r Marked := recorded.of_record
      have first := (Resolves.follows m left hn.1 hx clean₁).consumed recorded
      have second := (Resolves.follows m right hn.2 hy clean₂).consumed clean
      refine .inr ⟨_, (resolves_comparison hc).2 ⟨x, t₁, first, y, t₂, second, ?_⟩, .inl rfl⟩
      exact ⟨v, hv, rfl, rfl⟩
  | .hole _, _, h, _ => absurd h not_resolves_hole

/-- Expressions that are consumed cleanly one after the other resolve to the same values on the second
snapshot. -/
theorem ResolvesAll.follows {env : Environment} {s₁ s₂ : Snapshot} {r : Root}
    {N Marked : String → Prop} (m : Marks s₁ s₂ r N Marked) {t t' : Trace} {vs : List Value} :
    (es : List Expr) → Expr.NamedAll N es → ResolvesAll (env.on s₁) es t vs t' →
      t'.Clean r Marked → ResolvesAll (env.on s₂) es t vs t'
  | [], _, h, _ => h
  | e :: es, hn, h, clean => by
    obtain ⟨a, t₁, ha, ws, _, hws, rfl, rfl⟩ := resolvesAll_cons.1 h
    have recorded : (t₁.record a.path).Clean r Marked := clean.of_subset (hws.hits_subset es)
    have clean₁ : t₁.Clean r Marked := recorded.of_record
    have first := (Resolves.follows m e hn.1 ha clean₁).consumed recorded
    exact resolvesAll_cons.2 ⟨a, t₁, first, ws, _, ResolvesAll.follows m es hn.2 hws clean, rfl, rfl⟩

end

/-- What was evaluated cleanly on the first snapshot is evaluated in the same way on the second one. -/
lemma Marks.evaluate {env : Environment} {s₁ s₂ : Snapshot} {r : Root} {N Marked : String → Prop}
    (m : Marks s₁ s₂ r N Marked) {e : Expr} {source : Option String} {x : Evaluated}
    (hn : e.Named N) (h : ((env.on s₁).evaluate e source).result = .ok x)
    (clean : ∀ path ∈ x.hits, path ≠ r.name ∧ ¬ Marked path) :
    ((env.on s₂).evaluate e source).result = .ok x := by
  obtain ⟨a, t₁, ha, hk, hv, hits⟩ := evaluate_eq_ok.1 h
  have recorded : (t₁.record a.path).Clean r Marked := by
    intro path hp
    rw [← hits] at hp
    exact clean path hp
  have clean₁ : t₁.Clean r Marked := recorded.of_record
  have second := (ha.follows m e hn clean₁).consumed recorded
  exact evaluate_eq_ok.2 ⟨a, t₁, second, hk, hv, hits⟩

/-- Two snapshots differ at most in what one root holds under one key. -/
structure DifferAt (s₁ s₂ : Snapshot) (r : Root) (k : String) : Prop where
  others : ∀ q, q ≠ r → s₁.members q = s₂.members q
  member : ∀ name, name ≠ k →
    Value.member? (.text name) (s₁.members r) = Value.member? (.text name) (s₂.members r)

/-- A path goes on after a root with a segment, and then ends or goes on with a further access. -/
def Enters (root segment path : String) : Prop :=
  ∃ rest, Continues rest ∧ path = root ++ "." ++ segment ++ rest

/-- The first segment of a path after a root: what it goes on with up to the next access. -/
def FirstSegment (root path segment : String) : Prop :=
  Enters root segment path ∧ ∀ c ∈ segment.toList, c ≠ '.' ∧ c ≠ '['

/-- A path that goes on with a segment still does so when it is extended. -/
lemma Enters.extend {root segment path rest : String} (h : Enters root segment path)
    (hr : Continues rest) : Enters root segment (path ++ rest) := by
  obtain ⟨front, hf, rfl⟩ := h
  refine ⟨front ++ rest, ?_, String.append_assoc ..⟩
  intro c hc
  rw [String.toList_append, List.head?_append] at hc
  cases hh : front.toList.head? with
  | none =>
    rw [hh, Option.none_or] at hc
    exact hr c hc
  | some d =>
    rw [hh] at hc
    exact hf c (hh.trans hc)

/-- The path of a member of a root goes on with the name of the member. -/
lemma enters_memberPath (root name : String) : Enters root name (Resolved.memberPath root name) :=
  ⟨"", nofun, (String.append_empty ..).symm⟩

/-- The path of all parts of a root goes on with a star. -/
lemma enters_allPath (root : String) : Enters root "*" (Resolved.allPath root) := by
  refine ⟨"", nofun, ?_⟩
  rw [String.append_empty, String.append_assoc]
  rfl

/-- Snapshots that differ in a member agree on all that does not go through it or through all members.
Going through it matters only where some name can be its key. -/
lemma DifferAt.marks {s₁ s₂ : Snapshot} {r : Root} {k : String} (d : DifferAt s₁ s₂ r k)
    {N : String → Prop} {P : Prop} (hP : N k → P) :
    Marks s₁ s₂ r N fun path => P ∧ Enters r.name k path ∨ Enters r.name "*" path where
  others := d.others
  member name hn marked := by
    apply d.member name
    rintro rfl
    exact marked (.inl ⟨hP hn, enters_memberPath r.name name⟩)
  all := .inr (enters_allPath r.name)
  extend path rest marked hr := by
    rcases marked with ⟨p, h⟩ | h
    · exact .inl ⟨p, h.extend hr⟩
    · exact .inr (h.extend hr)

/-- A name is one segment. -/
lemma IsName.segment {s : String} (h : IsName s) : ∀ c ∈ s.toList, c ≠ '.' ∧ c ≠ '[' := by
  intro c hc
  have char := h.chars c hc
  constructor
  · rintro rfl
    cases char
  · rintro rfl
    cases char

/-- Two snapshots differ at most in what one root holds under one key. Where evaluating on the first one
succeeds without consuming the root itself, that member or all members of the root, evaluating on the
second one gives the same value with the same kind and the same paths. That holds of every expression,
and of every text with the first segments of the paths consumed. -/
theorem evaluate_noninterference (env : Environment) (s₁ s₂ : Snapshot) (r : Root) (k : String)
    (d : DifferAt s₁ s₂ r k) :
    (∀ e source x, ((env.on s₁).evaluate e source).result = .ok x →
      (∀ path ∈ x.hits,
        path ≠ r.name ∧ ¬ Enters r.name k path ∧ ¬ Enters r.name "*" path) →
      ((env.on s₂).evaluate e source).result = .ok x) ∧
    ∀ text limit x, ((env.on s₁).evaluateText text limit).result = .ok x →
      (∀ path ∈ x.hits,
        path ≠ r.name ∧ ¬ FirstSegment r.name path k ∧ ¬ FirstSegment r.name path "*") →
      ((env.on s₂).evaluateText text limit).result = .ok x := by
  constructor
  · intro e source x h clean
    have m := d.marks (N := fun _ => True) (P := True) id
    apply m.evaluate (Expr.Named.of_forall (fun _ => trivial) e) h
    intro path hp
    obtain ⟨whole, key, star⟩ := clean path hp
    exact ⟨whole, fun marked => marked.elim (fun h => key h.2) star⟩
  · intro text limit x h clean
    obtain ⟨parsed, hp, he⟩ := evaluateText_eq_ok.1 h
    have m := d.marks (N := IsName) IsName.segment
    refine evaluateText_eq_ok.2 ⟨parsed, hp, m.evaluate (parse_named hp) he fun path hh => ?_⟩
    obtain ⟨whole, key, star⟩ := clean path hh
    refine ⟨whole, fun marked => ?_⟩
    rcases marked with ⟨plain, h⟩ | h
    · exact key ⟨h, plain⟩
    · exact star ⟨h, List.forall_mem_singleton.2 ⟨by decide, by decide⟩⟩

/-- A member that is added beside the one that is read makes no difference. -/
theorem evaluate_noninterference_added :
    let s₁ := Snapshot.empty.withRoot .env [(.text "A", .string "x")]
    let s₂ := Snapshot.empty.withRoot .env [(.text "A", .string "x"), (.text "B", .string "y")]
    let env : Environment := {}
    DifferAt s₁ s₂ .env "B" ∧
      ((env.on s₂).evaluate (.property (.root "env") "A") none).result =
        .ok ⟨.string "x", .string, ["env.A"]⟩ := by
  intro s₁ s₂ env
  have d : DifferAt s₁ s₂ .env "B" := by
    constructor
    · intro q hq
      exact (if_neg hq).trans (if_neg hq).symm
    · intro name hn
      have other : Key.same (.text "B") (.text name) = false := by
        change (Key.text "B" == Key.text name) = false
        rw [beq_eq_false_iff_ne]
        intro e
        exact hn (Key.text.inj e).symm
      change Value.member? (.text name) [(.text "A", Value.string "x")] =
        Value.member? (.text name) [(.text "A", Value.string "x"), (.text "B", .string "y")]
      rw [Value.member?, Value.member?, List.find?_cons, List.find?_cons]
      cases Key.same (.text "A") (.text name) with
      | true => rfl
      | false =>
        rw [List.find?_cons, other]
  refine ⟨d, (evaluate_noninterference env s₁ s₂ .env "B" d).1 _ none _ rfl ?_⟩
  refine List.forall_mem_singleton.2 ⟨by decide, ?_, ?_⟩
  · rintro ⟨rest, -, e⟩
    have chars := congrArg String.toList e
    simp [Root.name] at chars
  · rintro ⟨rest, -, e⟩
    have chars := congrArg String.toList e
    simp [Root.name] at chars

end WorkflowExpr
