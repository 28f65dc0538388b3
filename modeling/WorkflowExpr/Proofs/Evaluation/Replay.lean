import WorkflowExpr.Proofs.Evaluation.Place
import WorkflowExpr.Proofs.Expr.Lexeme
import WorkflowExpr.Proofs.Number.Shortest
import WorkflowExpr.Proofs.Value.Model

/-!
# Replaying paths

A path that spells a place is itself an expression. It is read into accesses that follow the steps of
the place, and these resolve to what the context holds there, with that same path.
-/

namespace WorkflowExpr

namespace Place

/-- The expression that follows the steps of a place. -/
def expr : Place → Expr
  | root name => .root name
  | member place name => .property place.expr name
  | element place position =>
    .index place.expr (.literal (.real (Double.ofText (Nat.toDigits 10 position.1))))
  | parts place => .wildcard place.expr
  | projected place name => .property (.wildcard place.expr) name

/-- The expression of a place resolves to what the context holds there, with the path of the place, and
consumes nothing. -/
lemma resolves {env : Environment} {place : Place} {v : Value}
    (h : place.read env.context = some v) (t : Trace) :
    Resolves env place.expr t ⟨v, some place.text⟩ t := by
  induction place generalizing v with
  | root name =>
    refine resolves_root.2 ⟨?_, rfl⟩
    rw [read] at h
    split at h
    · next mem =>
      cases h
      exact if_pos mem
    · cases h
  | member place name ih =>
    rw [read] at h
    split at h
    · next members hm =>
      refine resolves_property.2 ⟨_, t, ih hm, Resolved.property_ok.2 (.inl ?_), rfl⟩
      exact ⟨members, v, rfl, h, rfl⟩
    · cases h
  | element place position ih =>
    obtain ⟨n, m, hm, hf⟩ := position
    rw [read] at h
    split at h
    · next items hi =>
      -- The digits of the position are read back as a number with the same integer part.
      obtain ⟨finite, floor⟩ := Double.ofText_floor hm
      rw [hf] at finite floor
      refine resolves_index.2 ⟨_, t, ih hi, _, t, resolves_literal.2 ⟨rfl, rfl⟩, ?_, rfl⟩
      refine Resolved.element_ok.2 ⟨items, _, v, rfl, rfl, finite, ?_, ?_, ?_⟩
      · rw [floor]
        exact Int.natCast_nonneg n
      · rw [floor]
        exact h
      · rw [floor]
        rfl
    · cases h
  | parts place ih =>
    obtain ⟨w, items, hw, hp, rfl⟩ := read_parts.1 h
    exact resolves_wildcard.2 ⟨_, t, ih hw, Resolved.parts_ok.2 ⟨items, hp, rfl⟩, rfl⟩
  | projected place name ih =>
    obtain ⟨w, items, hw, hp, rfl⟩ := read_projected.1 h
    have all : Resolves env (.wildcard place.expr) t
        ⟨.array items, some (Resolved.allPath place.text)⟩ t :=
      resolves_wildcard.2 ⟨_, t, ih hw, Resolved.parts_ok.2 ⟨items, hp, rfl⟩, rfl⟩
    refine resolves_property.2 ⟨_, t, all, Resolved.property_ok.2 (.inr ⟨items, rfl, ?_⟩), rfl⟩
    have path : Resolved.projectedPath (Resolved.allPath place.text) name =
        (Place.projected place name).text := projectedPath_text (.parts place) name
    rw [Option.map_some, path]

end Place

/-- A path writes an expression: it is scanned into tokens that derive it, unless a character of a name
follows. -/
def Writes (path : String) (e : Expr) : Prop :=
  ∃ ts, Derives .access (ts.map Token.listed) e ∧
    ∀ rest : List Char, (∀ c ∈ rest.head?, Lexeme.isNameChar c = false) →
      Scans 0 path.toList ts rest

namespace Writes

variable {path : String} {e : Expr}

/-- What a symbol of an access starts does not go on a name. -/
lemma stops {c : Char} (h : Lexeme.isNameChar c = false) (cs : List Char) :
    ∀ d ∈ (c :: cs).head?, Lexeme.isNameChar d = false := by
  rintro _ ⟨⟩
  exact h

/-- The name of a root writes the root. -/
lemma root {name : String} (h : IsName name) : Writes name (.root name) := by
  refine ⟨[⟨.identifier, name.toList, 0⟩], ?_, fun rest hr => Scans.first ?_⟩
  · have derived : Derives .access [(⟨.identifier, name.toList, 0⟩ : Token).listed]
        (.root (String.ofList name.toList)) := .accessPass (.root rfl)
    rw [String.ofList_toList] at derived
    exact derived
  · exact Lexeme.first_name h hr

/-- The path of a member writes the property. -/
lemma member {name : String} (h : IsName name) (w : Writes path e) :
    Writes (Resolved.memberPath path name) (.property e name) := by
  obtain ⟨ts, d, hs⟩ := w
  let n := 0 + path.toList.length
  let dot : Token := ⟨.dot, ['.'], n⟩
  let word : Token := ⟨.identifier, name.toList, n + 1⟩
  refine ⟨ts ++ [dot, word], ?_, fun rest hr => ?_⟩
  · have derived : Derives .access (ts.map Token.listed ++ [dot.listed, word.listed])
        (.property e (String.ofList name.toList)) := .property d rfl rfl
    rw [String.ofList_toList] at derived
    rw [List.map_append]
    exact derived
  · rw [Resolved.memberPath, String.toList_append, String.toList_append, List.append_assoc]
    exact (hs _ (stops rfl _)).append (Scans.member h hr)

/-- The path of all parts writes the wildcard. -/
lemma all (w : Writes path e) : Writes (Resolved.allPath path) (.wildcard e) := by
  obtain ⟨ts, d, hs⟩ := w
  let n := 0 + path.toList.length
  let dot : Token := ⟨.dot, ['.'], n⟩
  let star : Token := ⟨.star, ['*'], n + 1⟩
  refine ⟨ts ++ [dot, star], ?_, fun rest _ => ?_⟩
  · rw [List.map_append]
    exact .dotStar d rfl rfl
  · rw [Resolved.allPath, String.toList_append]
    exact (hs _ (stops rfl _)).append Scans.dotStar

/-- The path of an element writes the index, with a literal for the position. -/
lemma element (position : Nat) (w : Writes path e) :
    Writes (Resolved.elementPath path position)
      (.index e (.literal (.real (Double.ofText (Nat.toDigits 10 position))))) := by
  obtain ⟨ts, d, hs⟩ := w
  let n := 0 + path.toList.length
  let digits := Nat.toDigits 10 position
  let opened : Token := ⟨.openBracket, ['['], n⟩
  let number : Token := ⟨.number, digits, n + 1⟩
  let closed : Token := ⟨.closeBracket, [']'], n + 1 + digits.length⟩
  refine ⟨ts ++ [opened, number, closed], ?_, fun rest _ => ?_⟩
  · have value : number.text.toList = digits := String.toList_ofList
    have inner : Derives .or [number.listed]
        (.literal (.real (Double.ofText number.text.toList))) :=
      Derives.toOr (.accessPass (.number rfl))
    rw [value] at inner
    have derived := Derives.index (l := opened.listed) (r := closed.listed) d rfl inner rfl
    rw [List.append_assoc] at derived
    rw [List.map_append]
    exact derived
  · have spelled : (Resolved.elementPath path position).toList =
        path.toList ++ ('[' :: digits ++ [']']) := by
      have decimal : (toString (position : Int)).toList = digits := Nat.toList_repr
      rw [Resolved.elementPath, String.toList_append, String.toList_append, String.toList_append,
        decimal, List.append_assoc, List.append_assoc]
      rfl
    rw [spelled]
    exact (hs _ (stops rfl _)).append Scans.brackets

end Writes

namespace Place

/-- The path of a place writes the expression that follows the place. -/
lemma writes (place : Place) : Writes place.text place.expr := by
  induction place with
  | root name => exact Writes.root name.2
  | member place name ih => exact ih.member name.2
  | element place position ih => exact ih.element position.1
  | parts place ih => exact ih.all
  | projected place name ih => exact ih.all.member name.2

/-- The path of a place starts as a name does. -/
lemma head_text (place : Place) :
    ∃ c, place.text.toList.head? = some c ∧ Lexeme.isNameStart c = true := by
  have front {path suffix : String} {c : Char} (h : path.toList.head? = some c) :
      (path ++ suffix).toList.head? = some c := by
    rw [String.toList_append, List.head?_append, h]
    rfl
  induction place with
  | root name =>
    obtain ⟨⟨c, cs, hs, hc, -⟩, -⟩ := name.2
    exact ⟨c, by rw [text, hs]; rfl, hc⟩
  | member place name ih =>
    obtain ⟨c, hc, start⟩ := ih
    exact ⟨c, front (front hc), start⟩
  | element place position ih =>
    obtain ⟨c, hc, start⟩ := ih
    exact ⟨c, front (front (front hc)), start⟩
  | parts place ih =>
    obtain ⟨c, hc, start⟩ := ih
    exact ⟨c, front hc, start⟩
  | projected place name ih =>
    obtain ⟨c, hc, start⟩ := ih
    exact ⟨c, front (front (front hc)), start⟩

/-- The path of a place has no braces or blanks around it. -/
lemma unwrap_text (place : Place) : unwrap place.text.toList = (place.text.toList, false) := by
  apply unwrap_eq_self
  · intro c hc
    obtain ⟨d, hd, start⟩ := place.head_text
    obtain rfl : d = c := Option.some.inj (hd.symm.trans hc)
    refine ⟨Lexeme.isBlank_nameChar (Lexeme.isNameChar_of_start start), ?_⟩
    rintro rfl
    cases start
  · intro c hc
    obtain ⟨d, hd, last⟩ := place.getLast_text
    obtain rfl : d = c := Option.some.inj (hd.symm.trans hc)
    rcases last with last | rfl | ⟨rfl, -⟩
    · exact Lexeme.isBlank_nameChar last
    · decide
    · decide

/-- The path of a place is parsed as its expression, up to every limit that is large enough. -/
theorem parse_text (place : Place) {limit : Int} (h : place.expr.depth ≤ limit) :
    parse place.text limit = .ok ⟨place.text, place.expr⟩ := by
  obtain ⟨ts, d, hs⟩ := place.writes
  -- At the end of the text no further character of a name follows.
  have scanned : scan place.text.toList = ⟨ts, none⟩ := by
    have whole := hs [] (fun _ hc => by cases hc)
    rw [Scans, scanFrom_nil, List.append_nil, List.append_nil] at whole
    exact whole
  refine parse_eq_ok_iff.2 ⟨?_, parseSource_eq_ok_iff.2 ?_, ?_⟩
  · rw [unwrap_text, String.ofList_toList]
  · rw [unwrap_text, scanned]
    exact ⟨rfl, d.toOr⟩
  · exact Expr.fits_of_le h

/-- What a context of values of the language holds at a place is one. -/
lemma read_inModel {context : List (String × Value)} (hc : ∀ entry ∈ context, entry.2.InModel)
    {place : Place} {v : Value} (h : place.read context = some v) : v.InModel := by
  have part {w : Value} {items : List Value} (hw : w.InModel) (hp : w.parts? = some items) :
      ∀ item ∈ items, item.InModel := by
    cases hw with
    | array hs =>
      cases hp
      exact hs
    | object hs =>
      cases hp
      intro item hi
      obtain ⟨entry, he, rfl⟩ := List.mem_map.1 hi
      exact hs entry he
    | _ =>
      cases hp
      exact List.forall_mem_nil _
  -- By induction on the place, for parts of values of the language are such values.
  induction place generalizing v with
  | root name =>
    rw [read] at h
    split at h
    · cases h
      cases hf : context.find? fun entry => entry.1 == name.1 with
      | none => exact .object (List.forall_mem_nil _)
      | some entry => exact hc entry (List.mem_of_find?_eq_some hf)
    · cases h
  | member place name ih =>
    rw [read] at h
    split at h
    · next members hm => exact (ih hm).member h
    · cases h
  | element place position ih =>
    rw [read] at h
    split at h
    · next items hi => exact part (ih hi) rfl v (List.mem_of_getElem? h)
    · cases h
  | parts place ih =>
    obtain ⟨w, items, hw, hp, rfl⟩ := read_parts.1 h
    exact .array (part (ih hw) hp)
  | projected place name ih =>
    obtain ⟨w, items, hw, hp, rfl⟩ := read_projected.1 h
    apply Value.InModel.array
    intro item hitem
    obtain ⟨origin, ho, rfl⟩ := List.mem_map.1 hitem
    have model := part (ih hw) hp origin ho
    cases model with
    | object hs =>
      rw [Resolved.projected]
      cases hm : Value.member? (.text name.1) _ with
      | none => exact .null
      | some w => exact (Value.InModel.object hs).member hm
    | _ => exact .null

end Place

/-- A path, read as an expression up to every limit that is large enough, is evaluated to a value with
that path as the only one consumed. -/
def Replays (env : Environment) (path : String) (v : Value) : Prop :=
  ∃ depth : Nat, ∃ kind, v.kind = .ok kind ∧ ∀ limit : Int, depth ≤ limit →
    (env.evaluateText path limit).result = .ok ⟨v, kind, [path]⟩

/-- A path that spells a place is evaluated to what the context holds there. -/
lemma Holds.replays {env : Environment} {path : String} {v : Value}
    (hc : ∀ entry ∈ env.context, entry.2.InModel) (h : Holds env path v) : Replays env path v := by
  obtain ⟨place, rfl, read⟩ := h
  obtain ⟨kind, hk⟩ := (Place.read_inModel hc read).kind
  refine ⟨place.expr.depth, kind, hk, fun limit fits => ?_⟩
  refine evaluateText_eq_ok.2 ⟨_, place.parse_text fits, evaluate_eq_ok.2 ?_⟩
  exact ⟨_, _, place.resolves read .empty, hk, rfl, rfl⟩

/-- Whatever a node of a parsed expression resolves to with a path, that path replays it; and every path
consumed by a successful evaluation replays what the context holds where it spells. -/
theorem hits_replay (env : Environment) (text : String) (limit : Int) (parsed : Parsed)
    (hc : ∀ entry ∈ env.context, entry.2.InModel) (hp : parse text limit = .ok parsed) :
    (∀ node ∈ parsed.root.nodes, ∀ t r t' path, Resolves env node t r t' → r.path = some path →
      Replays env path r.value) ∧
    ∀ x, (env.evaluateText text limit).result = .ok x → ∀ path ∈ x.hits,
      ∃ v, Holds env path v ∧ Replays env path v := by
  have named := parse_named hp
  constructor
  · intro node hn t r t' path h hr
    obtain ⟨placed, -⟩ := h.placed node (named.of_mem_nodes _ hn)
    exact (placed path hr).replays hc
  · intro x hx path hh
    obtain ⟨_, hp', he⟩ := evaluateText_eq_ok.1 hx
    cases hp.symm.trans hp'
    obtain ⟨a, t₁, ha, -, -, hits⟩ := evaluate_eq_ok.1 he
    obtain ⟨placed, keeps⟩ := ha.placed _ named
    have none : Trace.empty.Placed env := List.forall_mem_nil _
    rw [hits] at hh
    obtain ⟨v, hv⟩ := (keeps none).record placed path hh
    exact ⟨v, hv, hv.replays hc⟩

/-- The path of a member replays it. -/
theorem hits_replay_member :
    let env : Environment := { context := [("github", .ofFields [("ref", .string "main")])] }
    (∀ entry ∈ env.context, entry.2.InModel) ∧
      parse "github.ref" 2 = .ok ⟨"github.ref", .property (.root "github") "ref"⟩ ∧
      Replays env "github.ref" (.string "main") := by
  intro env
  have ithub : "ithub".toList.all Lexeme.isNameChar = true := by decide
  have ef : "ef".toList.all Lexeme.isNameChar = true := by decide
  let github : Name := ⟨"github", ⟨'g', _, rfl, rfl, List.all_eq_true.1 ithub⟩, by decide⟩
  let ref : Name := ⟨"ref", ⟨'r', _, rfl, rfl, List.all_eq_true.1 ef⟩, by decide⟩
  have model : ∀ entry ∈ env.context, entry.2.InModel :=
    List.forall_mem_singleton.2 (.object (List.forall_mem_singleton.2 .string))
  have parsed : parse "github.ref" 2 = .ok ⟨"github.ref", .property (.root "github") "ref"⟩ :=
    Place.parse_text (.member (.root github) ref) (Int.le_refl 2)
  have read : (Place.member (.root github) ref).read env.context = some (.string "main") := rfl
  have resolved : Resolves env (.property (.root "github") "ref") .empty
      ⟨.string "main", some "github.ref"⟩ .empty := Place.resolves read .empty
  refine ⟨model, parsed, (hits_replay env "github.ref" 2 _ model parsed).1 _ ?_ _ _ _ _ resolved rfl⟩
  exact List.mem_cons_self ..

end WorkflowExpr
