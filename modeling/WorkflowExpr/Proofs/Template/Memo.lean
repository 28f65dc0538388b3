import WorkflowExpr.Evaluation.Render
import WorkflowExpr.Proofs.Result

/-!
# Texts that are known

A placeholder whose text is known is not evaluated again. What is rendered is the same as if each placeholder
were evaluated by itself, because only texts of placeholders become known; and no placeholder is evaluated
twice, because the text of each one that was evaluated is known from then on.
-/

namespace WorkflowExpr

/-- The placeholder that a segment is. -/
def Segment.placeholder? : Segment → Option (List Char)
  | text _ => none
  | placeholder chars => some chars

/-- The texts that are known are those of their placeholders. -/
def Known (env : Environment) (limit : Int) (known : List (List Char × String)) : Prop :=
  ∀ entry ∈ known, env.renderPlaceholder limit entry.1 = .ok entry.2

/-- The text of a segment by itself. -/
def Environment.renderSegment (env : Environment) (limit : Int) : Segment → Except ExpressionError String
  | .text chars => .ok (String.ofList chars)
  | .placeholder chars => env.renderPlaceholder limit chars

section Known

variable {env : Environment} {limit : Int} {known : List (List Char × String)}

/-- A placeholder is not found when its text is not known. -/
lemma find_eq_none_iff {chars : List Char} :
    (known.find? fun entry => entry.1 == chars) = none ↔ chars ∉ known.map Prod.fst := by
  rw [List.find?_eq_none, List.mem_map]
  constructor
  · rintro none ⟨entry, mem, rfl⟩
    exact none entry mem (beq_self_eq_true entry.1)
  · intro unknown entry mem same
    exact unknown ⟨entry, mem, beq_iff_eq.1 same⟩

/-- What is found is a known text of that placeholder. -/
lemma mem_of_find {chars : List Char} {entry : List Char × String}
    (h : (known.find? fun entry => entry.1 == chars) = some entry) : entry.1 = chars ∧ entry ∈ known := by
  have found := List.find?_some h
  exact ⟨beq_iff_eq.1 found, List.mem_of_find?_eq_some h⟩

/-- What is known does not count for what is rendered. -/
lemma renderSegments_eq (hk : Known env limit known) (segs : List Segment) :
    renderSegments (env.renderPlaceholder limit) known segs = segs.mapM (env.renderSegment limit) := by
  induction segs generalizing known with
  | nil => rfl
  | cons seg rest ih =>
    rw [List.mapM_cons]
    cases seg with
    | text chars =>
      rw [renderSegments, ih hk]
      rfl
    | placeholder chars =>
      rw [renderSegments, Environment.renderSegment]
      cases found : known.find? fun entry => entry.1 == chars with
      | some entry =>
        -- The text was rendered before, for a placeholder with the same characters.
        obtain ⟨rfl, mem⟩ := mem_of_find found
        rw [hk entry mem]
        simp only [ih hk]
        rfl
      | none =>
        cases rendered : env.renderPlaceholder limit chars with
        | error e => rfl
        | ok text =>
          -- What becomes known is what was rendered just now.
          have next := @ih ((chars, text) :: known) (List.forall_mem_cons.2 ⟨rendered, hk⟩)
          rw [← next]
          rfl

end Known

/-- An evaluation that notes which placeholders are evaluated. -/
def noting {ε : Type} (evaluate : List Char → Except ε String) (chars : List Char) :
    ExceptT ε (StateM (List (List Char))) String :=
  ExceptT.mk fun noted => (evaluate chars, noted ++ [chars])

section Run

variable {ε α β σ : Type} {x : ExceptT ε (StateM σ) α} {s s' : σ}

/-- A step that has a result goes on from the state that it leaves. -/
lemma run_bind_ok {a : α} (h : (x.run.run s).run = (.ok a, s')) (f : α → ExceptT ε (StateM σ) β) :
    ((x >>= f).run.run s).run = ((f a).run.run s').run := by
  rw [ExceptT.run_bind, StateT.run_bind, Id.run_bind, h]

/-- A step that fails ends with the state that it leaves. -/
lemma run_bind_error {e : ε} (h : (x.run.run s).run = (.error e, s')) (f : α → ExceptT ε (StateM σ) β) :
    ((x >>= f).run.run s).run = (.error e, s') := by
  rw [ExceptT.run_bind, StateT.run_bind, Id.run_bind, h]
  rfl

/-- A step whose result is only changed leaves the same state. -/
lemma run_bind_pure {r : Except ε α} (h : (x.run.run s).run = (r, s')) (f : α → β) :
    ((x >>= fun a => pure (f a)).run.run s).run = (r >>= fun a => pure (f a), s') := by
  cases r with
  | error e => exact run_bind_error h _
  | ok a => exact run_bind_ok h _

end Run

section Noting

variable {ε : Type} {known : List (List Char × String)} {segs : List Segment}
  {result : Except ε (List String)} {noted : List (List Char)}

/-- The placeholders that are evaluated when segments are rendered: none of them twice and none that was known
before, in the order of the segments, and, unless an evaluation fails, all others. -/
structure Notes (known : List (List Char × String)) (segs : List Segment)
    (result : Except ε (List String)) (noted : List (List Char)) : Prop where
  nodup : noted.Nodup
  unknown : ∀ chars ∈ noted, chars ∉ known.map Prod.fst
  sublist : noted.Sublist (segs.filterMap Segment.placeholder?)
  complete : ∀ texts, result = .ok texts →
    ∀ chars ∈ segs.filterMap Segment.placeholder?, chars ∈ noted ∨ chars ∈ known.map Prod.fst

namespace Notes

/-- Nothing is evaluated for no segments. -/
lemma nil : Notes known [] result [] where
  nodup := .nil
  unknown := List.forall_mem_nil _
  sublist := .slnil
  complete := fun _ _ => List.forall_mem_nil _

/-- Nothing is evaluated for a text. -/
lemma text {chars : List Char} {text : String} (h : Notes known segs result noted) :
    Notes known (.text chars :: segs) (result >>= fun texts => pure (text :: texts)) noted where
  nodup := h.nodup
  unknown := h.unknown
  sublist := h.sublist
  complete := by
    intro texts rendered
    obtain ⟨texts, rest, -⟩ := bind_eq_ok.1 rendered
    exact h.complete texts rest

/-- Nothing is evaluated for a placeholder whose text is known. -/
lemma seen {chars : List Char} {text : String} (mem : chars ∈ known.map Prod.fst)
    (h : Notes known segs result noted) :
    Notes known (.placeholder chars :: segs) (result >>= fun texts => pure (text :: texts)) noted where
  nodup := h.nodup
  unknown := h.unknown
  sublist := .cons chars h.sublist
  complete := by
    intro texts rendered
    obtain ⟨texts, rest, -⟩ := bind_eq_ok.1 rendered
    exact List.forall_mem_cons.2 ⟨.inr mem, h.complete texts rest⟩

/-- A placeholder that fails is evaluated, and nothing after it. -/
lemma failed {chars : List Char} {e : ε} (unknown : chars ∉ known.map Prod.fst) :
    Notes known (.placeholder chars :: segs) (.error e) [chars] where
  nodup := List.pairwise_singleton _ chars
  unknown := List.forall_mem_singleton.2 unknown
  sublist := .cons_cons chars (List.nil_sublist _)
  complete := nofun

/-- A placeholder that is not known is evaluated, and then it is known. -/
lemma evaluated {chars : List Char} {text : String} (unknown : chars ∉ known.map Prod.fst)
    (h : Notes ((chars, text) :: known) segs result noted) :
    Notes known (.placeholder chars :: segs) (result >>= fun texts => pure (text :: texts))
      (chars :: noted) where
  nodup := List.nodup_cons.2 ⟨fun again => h.unknown chars again (List.mem_cons_self ..), h.nodup⟩
  unknown := List.forall_mem_cons.2 ⟨unknown, fun c hc seen => h.unknown c hc (List.mem_cons_of_mem _ seen)⟩
  sublist := .cons_cons chars h.sublist
  complete := by
    intro texts rendered
    obtain ⟨texts, rest, -⟩ := bind_eq_ok.1 rendered
    refine List.forall_mem_cons.2 ⟨.inl (List.mem_cons_self ..), fun c hc => ?_⟩
    rcases h.complete texts rest c hc with noted | seen
    · exact .inl (List.mem_cons_of_mem chars noted)
    · rcases List.mem_cons.1 seen with rfl | seen
      · exact .inl (List.mem_cons_self ..)
      · exact .inr seen

end Notes

/-- Rendering that notes what is evaluated has the same result. -/
lemma renderSegments_noting (evaluate : List Char → Except ε String) (known : List (List Char × String))
    (segs : List Segment) (before : List (List Char)) :
    ∃ noted, ((renderSegments (noting evaluate) known segs).run.run before).run =
        (renderSegments evaluate known segs, before ++ noted) ∧
      Notes known segs (renderSegments evaluate known segs) noted := by
  induction segs generalizing known before with
  | nil => exact ⟨[], congrArg (Prod.mk _) (List.append_nil before).symm, .nil⟩
  | cons seg rest ih =>
    cases seg with
    | text chars =>
      obtain ⟨noted, run, notes⟩ := ih known before
      rw [renderSegments, renderSegments]
      exact ⟨noted, run_bind_pure run _, notes.text⟩
    | placeholder chars =>
      rw [renderSegments, renderSegments]
      cases found : known.find? fun entry => entry.1 == chars with
      | some entry =>
        obtain ⟨rfl, mem⟩ := mem_of_find found
        obtain ⟨noted, run, notes⟩ := ih known before
        exact ⟨noted, run_bind_pure run _, notes.seen (List.mem_map_of_mem mem)⟩
      | none =>
        -- The evaluation is noted first; what follows runs with its text among those that are known.
        have unknown := find_eq_none_iff.1 found
        have note : ((noting evaluate chars).run.run before).run = (evaluate chars, before ++ [chars]) := rfl
        cases value : evaluate chars with
        | error e =>
          rw [value] at note
          exact ⟨[chars], run_bind_error note _, .failed unknown⟩
        | ok text =>
          rw [value] at note
          obtain ⟨noted, run, notes⟩ := ih ((chars, text) :: known) (before ++ [chars])
          rw [List.append_assoc] at run
          exact ⟨chars :: noted, (run_bind_ok note _).trans (run_bind_pure run _), notes.evaluated unknown⟩

end Noting

end WorkflowExpr
