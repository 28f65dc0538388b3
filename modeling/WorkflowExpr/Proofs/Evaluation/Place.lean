import WorkflowExpr.Proofs.Evaluation.Access
import WorkflowExpr.Proofs.Evaluation.Walk
import WorkflowExpr.Proofs.Expr.Name
import WorkflowExpr.Proofs.Number.Exact

/-!
# Places in a context

A place is where a context holds a value: at a root, or at a member, an element, all parts, or a member
of all parts of what stands at another place. It is read by following its steps, without any evaluation.

Whatever an expression resolves to with a path stands at a place that the path spells, and so does
every path consumed on the way.
-/

namespace WorkflowExpr

/-- A natural that is the integer part of a finite double. -/
abbrev Position := { n : Nat // ∃ m : Magnitude, m.isFinite = true ∧ m.floor = n }

/-- A place in a context. -/
inductive Place where
  /-- A root of the context. -/
  | root (name : Name)
  /-- The member of that name of an object. -/
  | member (place : Place) (name : Name)
  /-- The element of an array at a position. -/
  | element (place : Place) (position : Position)
  /-- All elements of an array or all members of an object. -/
  | parts (place : Place)
  /-- The members of that name of all elements of an array or all members of an object. -/
  | projected (place : Place) (name : Name)

namespace Place

/-- The value that a context holds at a place. -/
def read (context : List (String × Value)) : Place → Option Value
  | root name =>
    if name.1 ∈ Root.names then
      some (((context.find? fun entry => entry.1 == name.1).map (·.2)).getD (.object []))
    else none
  | member place name =>
    match place.read context with
    | some (.object members) => Value.member? (.text name) members
    | _ => none
  | element place position =>
    match place.read context with
    | some (.array items) => items[position.1]?
    | _ => none
  | parts place => ((place.read context).bind Value.parts?).map .array
  | projected place name =>
    ((place.read context).bind Value.parts?).map fun items =>
      .array (items.map (Resolved.projected name))

/-- What is made of the parts of a value is there when the value and its parts are. -/
lemma map_parts_eq_some {o : Option Value} {f : List Value → Value} {v : Value} :
    (o.bind Value.parts?).map f = some v ↔
      ∃ w items, o = some w ∧ w.parts? = some items ∧ v = f items := by
  constructor
  · intro h
    obtain ⟨items, hi, rfl⟩ := Option.map_eq_some_iff.1 h
    obtain ⟨w, hw, hp⟩ := Option.bind_eq_some_iff.1 hi
    exact ⟨w, items, hw, hp, rfl⟩
  · rintro ⟨w, items, hw, hp, rfl⟩
    rw [hw, Option.bind_some, hp, Option.map_some]

/-- A context holds all parts at a place when it holds an array or an object there. -/
lemma read_parts {context : List (String × Value)} {place : Place} {v : Value} :
    (parts place).read context = some v ↔
      ∃ w items, place.read context = some w ∧ w.parts? = some items ∧ v = .array items :=
  map_parts_eq_some

/-- A context holds projected members at a place when it holds an array or an object there. -/
lemma read_projected {context : List (String × Value)} {place : Place} {name : Name} {v : Value} :
    (projected place name).read context = some v ↔
      ∃ w items, place.read context = some w ∧ w.parts? = some items ∧
        v = .array (items.map (Resolved.projected name)) :=
  map_parts_eq_some

/-- The path that spells a place. -/
def text : Place → String
  | root name => name
  | member place name => Resolved.memberPath place.text name
  | element place position => Resolved.elementPath place.text position.1
  | parts place => Resolved.allPath place.text
  | projected place name => Resolved.memberPath (Resolved.allPath place.text) name

/-- The last character of a path goes on a name, closes a bracket, or is the star of all parts. -/
lemma getLast_text (place : Place) :
    ∃ c, place.text.toList.getLast? = some c ∧
      (Lexeme.isNameChar c = true ∨ c = ']' ∨ c = '*' ∧ ∃ base, place = .parts base) := by
  have named (path : String) (name : Name) :
      ∃ c, (Resolved.memberPath path name).toList.getLast? = some c ∧
        Lexeme.isNameChar c = true := by
    obtain ⟨c, last, hc⟩ := name.2.getLast
    refine ⟨c, ?_, hc⟩
    rw [Resolved.memberPath, String.toList_append, List.getLast?_append, last]
    rfl
  cases place with
  | root name =>
    obtain ⟨c, last, hc⟩ := name.2.getLast
    exact ⟨c, last, .inl hc⟩
  | member base name =>
    obtain ⟨c, last, hc⟩ := named base.text name
    exact ⟨c, last, .inl hc⟩
  | projected base name =>
    obtain ⟨c, last, hc⟩ := named (Resolved.allPath base.text) name
    exact ⟨c, last, .inl hc⟩
  | element base position =>
    refine ⟨']', ?_, .inr (.inl rfl)⟩
    rw [text, Resolved.elementPath, String.toList_append, List.getLast?_append]
    rfl
  | parts base =>
    refine ⟨'*', ?_, .inr (.inr ⟨rfl, base, rfl⟩)⟩
    rw [text, Resolved.allPath, String.toList_append, List.getLast?_append]
    rfl

/-- A path ends with a point and a star exactly if it spells all parts of a place. -/
lemma isSuffixOf_text (place : Place) :
    ['.', '*'].isSuffixOf place.text.toList = true ↔ ∃ base, place = .parts base := by
  rw [List.isSuffixOf_iff_suffix]
  constructor
  · rintro ⟨front, e⟩
    -- Of the characters that a path may end with, only that of all parts is a star.
    obtain ⟨c, last, hc⟩ := place.getLast_text
    rw [← e, List.getLast?_append] at last
    obtain rfl : '*' = c := Option.some.inj last
    rcases hc with hc | hc | ⟨-, hc⟩
    · cases hc
    · cases hc
    · exact hc
  · rintro ⟨base, rfl⟩
    rw [text, Resolved.allPath, String.toList_append]
    exact List.suffix_append ..

/-- The path of a member of what stands at a place, where an implicit star goes before the name. -/
lemma projectedPath_text (place : Place) (name : Name) :
    Resolved.projectedPath place.text name =
      match place with
      | .parts base => (Place.projected base name).text
      | _ => (Place.projected place name).text := by
  rw [Resolved.projectedPath]
  split
  · next h =>
    obtain ⟨base, rfl⟩ := place.isSuffixOf_text.1 h
    rfl
  · next h =>
    cases place with
    | parts base => exact absurd (isSuffixOf_text _ |>.2 ⟨base, rfl⟩) h
    | _ => rfl

end Place

/-- A path spells a place at which the context holds a value. -/
def Holds (env : Environment) (path : String) (v : Value) : Prop :=
  ∃ place : Place, place.text = path ∧ place.read env.context = some v

/-- A value with a path stands where its path spells. -/
def Resolved.Placed (env : Environment) (r : Resolved) : Prop :=
  ∀ path, r.path = some path → Holds env path r.value

/-- Every path consumed so far spells a place at which the context holds something. -/
def Trace.Placed (env : Environment) (t : Trace) : Prop :=
  ∀ path ∈ t.hits, ∃ v, Holds env path v

section Steps

variable {env : Environment}

/-- A computed value has no path and so stands nowhere else. -/
lemma Resolved.placed_computed (v : Value) : (Resolved.computed v).Placed env :=
  nofun

/-- A root stands where its name spells. -/
lemma placed_root {name : String} {r : Resolved} (hn : IsName name) (h : env.root name = .ok r) :
    r.Placed env := by
  unfold Environment.root at h
  split at h
  · next mem =>
    cases h
    rintro _ ⟨⟩
    exact ⟨.root ⟨name, hn⟩, rfl, if_pos mem⟩
  · cases h

/-- A property stands where its path spells when its base does. -/
lemma placed_property {base r : Resolved} {name : String} (hn : IsName name)
    (hb : base.Placed env) (h : base.property name = .ok r) : r.Placed env := by
  obtain ⟨members, v, hv, hm, rfl⟩ | ⟨items, hv, rfl⟩ := Resolved.property_ok.1 h
  · intro path hp
    obtain ⟨q, hq, rfl⟩ := Option.map_eq_some_iff.1 hp
    obtain ⟨place, rfl, read⟩ := hb q hq
    refine ⟨.member place ⟨name, hn⟩, rfl, ?_⟩
    rw [Place.read, read, hv]
    exact hm
  · intro path hp
    obtain ⟨q, hq, rfl⟩ := Option.map_eq_some_iff.1 hp
    obtain ⟨place, rfl, read⟩ := hb q hq
    rw [hv] at read
    rw [place.projectedPath_text ⟨name, hn⟩]
    -- Where all parts of a place are projected already, its path needs no further star.
    cases place with
    | parts origin =>
      obtain ⟨w, _, hw, hi, ⟨⟩⟩ := Place.read_parts.1 read
      exact ⟨.projected origin ⟨name, hn⟩, rfl, Place.read_projected.2 ⟨w, items, hw, hi, rfl⟩⟩
    | _ =>
      exact ⟨.projected _ ⟨name, hn⟩, rfl, Place.read_projected.2 ⟨_, items, read, rfl, rfl⟩⟩

/-- An element stands where its path spells when its base does. -/
lemma placed_element {base r : Resolved} {position : Value} (hb : base.Placed env)
    (h : base.element position = .ok r) : r.Placed env := by
  obtain ⟨items, number, v, hv, -, finite, range, hi, rfl⟩ := Resolved.element_ok.1 h
  intro path hp
  obtain ⟨q, hq, rfl⟩ := Option.map_eq_some_iff.1 hp
  obtain ⟨place, rfl, read⟩ := hb q hq
  obtain ⟨n, hn, m, hm, hf⟩ := Double.truncate_eq_floor finite range
  rw [hn] at hi ⊢
  refine ⟨.element place ⟨n, m, hm, hf⟩, rfl, ?_⟩
  rw [Place.read, read, hv]
  exact hi

/-- All parts stand where their path spells when their base does. -/
lemma placed_parts {base r : Resolved} (hb : base.Placed env) (h : base.parts = .ok r) :
    r.Placed env := by
  obtain ⟨items, hi, rfl⟩ := Resolved.parts_ok.1 h
  intro path hp
  obtain ⟨q, hq, rfl⟩ := Option.map_eq_some_iff.1 hp
  obtain ⟨place, rfl, read⟩ := hb q hq
  exact ⟨.parts place, rfl, Place.read_parts.2 ⟨base.value, items, read, hi, rfl⟩⟩

/-- Consuming what stands where its path spells keeps all consumed paths such. -/
lemma Trace.Placed.record {t : Trace} {r : Resolved} (ht : t.Placed env) (hr : r.Placed env) :
    (t.record r.path).Placed env := by
  intro path hp
  rcases Trace.eq_or_mem_of_mem_record hp with e | hp
  · exact ⟨r.value, hr path e⟩
  · exact ht path hp

end Steps

mutual

/-- What an expression that names identifiers resolves to stands where its path spells, and so does all
that is consumed on the way. -/
theorem Resolves.placed {env : Environment} {t t' : Trace} {r : Resolved} :
    (e : Expr) → e.Named IsName → Resolves env e t r t' →
      r.Placed env ∧ (t.Placed env → t'.Placed env)
  | .literal _, _, h => by
    obtain ⟨rfl, rfl⟩ := resolves_literal.1 h
    exact ⟨Resolved.placed_computed _, id⟩
  | .root _, hn, h => by
    obtain ⟨hr, rfl⟩ := resolves_root.1 h
    exact ⟨placed_root hn hr, id⟩
  | .property base _, hn, h => by
    obtain ⟨b, _, hb, hr, rfl⟩ := resolves_property.1 h
    obtain ⟨pb, keeps⟩ := Resolves.placed base hn.1 hb
    exact ⟨placed_property hn.2 pb hr, keeps⟩
  | .index base position, hn, h => by
    obtain ⟨b, t₁, hb, p, t₂, hp, hr, rfl⟩ := resolves_index.1 h
    obtain ⟨pb, keeps₁⟩ := Resolves.placed base hn.1 hb
    obtain ⟨pp, keeps₂⟩ := Resolves.placed position hn.2 hp
    exact ⟨placed_element pb hr, fun ht => (keeps₂ (keeps₁ ht)).record pp⟩
  | .wildcard base, hn, h => by
    obtain ⟨b, _, hb, hr, rfl⟩ := resolves_wildcard.1 h
    obtain ⟨pb, keeps⟩ := Resolves.placed base hn hb
    exact ⟨placed_parts pb hr, keeps⟩
  | .call _ args, hn, h => by
    obtain ⟨f, -, vs, t₁, hvs, v, -, rfl, rfl⟩ := resolves_call.1 h
    have keeps : t.Placed env → t₁.Placed env := ResolvesAll.placed args hn hvs
    exact ⟨Resolved.placed_computed _, keeps⟩
  | .not operand, hn, h => by
    obtain ⟨o, t₁, ho, rfl, rfl⟩ := resolves_not.1 h
    obtain ⟨po, keeps⟩ := Resolves.placed operand hn ho
    exact ⟨Resolved.placed_computed _, fun ht => (keeps ht).record po⟩
  | .binary op left right, hn, h => by
    -- A logical operator passes an operand on with its path; what a comparison gives has none.
    obtain ⟨stop, hs⟩ | ⟨compare, hc⟩ := op.stops_or_compares
    · obtain ⟨a, t₁, ha, ⟨-, rfl, rfl⟩ | ⟨-, hb⟩⟩ := (resolves_logical hs).1 h
      · obtain ⟨pa, keeps⟩ := Resolves.placed left hn.1 ha
        exact ⟨pa, fun ht => (keeps ht).record pa⟩
      · obtain ⟨pa, keeps₁⟩ := Resolves.placed left hn.1 ha
        obtain ⟨pb, keeps₂⟩ := Resolves.placed right hn.2 hb
        exact ⟨pb, fun ht => keeps₂ ((keeps₁ ht).record pa)⟩
    · obtain ⟨a, t₁, ha, b, t₂, hb, x, -, rfl, rfl⟩ := (resolves_comparison hc).1 h
      obtain ⟨pa, keeps₁⟩ := Resolves.placed left hn.1 ha
      obtain ⟨pb, keeps₂⟩ := Resolves.placed right hn.2 hb
      exact ⟨Resolved.placed_computed _, fun ht => (keeps₂ ((keeps₁ ht).record pa)).record pb⟩
  | .hole _, _, h => absurd h not_resolves_hole

/-- All that is consumed while expressions resolve one after the other stands where its path spells. -/
theorem ResolvesAll.placed {env : Environment} {t t' : Trace} {vs : List Value} :
    (es : List Expr) → Expr.NamedAll IsName es → ResolvesAll env es t vs t' →
      t.Placed env → t'.Placed env
  | [], _, h, ht => by
    obtain ⟨-, rfl⟩ := resolvesAll_nil.1 h
    exact ht
  | e :: es, hn, h, ht => by
    obtain ⟨a, t₁, ha, ws, _, hws, -, rfl⟩ := resolvesAll_cons.1 h
    obtain ⟨pa, keeps⟩ := Resolves.placed e hn.1 ha
    exact ResolvesAll.placed es hn.2 hws ((keeps ht).record pa)

end

end WorkflowExpr
