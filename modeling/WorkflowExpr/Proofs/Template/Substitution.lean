import WorkflowExpr.Proofs.Template.RoundTrip

/-!
# Rendering is substitution

A template is cut into plain texts and placeholders, and these are all of it. So what it is rendered as is the
template itself, with each placeholder replaced by the text that it has on its own; and if there is none, the
first placeholder without one decides how rendering fails.
-/

namespace WorkflowExpr

/-- The characters from one place up to another one. -/
def slice (cs : List Char) (span : Nat × Nat) : List Char :=
  (cs.take span.2).drop span.1

/-- The characters from a place on, with texts in the place of spans. -/
def substitute (cs : List Char) (start : Nat) : List (Nat × Nat) → List String → List Char
  | span :: spans, text :: texts =>
    slice cs (start, span.1) ++ text.toList ++ substitute cs span.2 spans texts
  | _, _ => cs.drop start

/-- A text that is made up of segments. Each placeholder has its braces. -/
inductive Cuts : List Char → List Segment → Prop where
  | text {cs} :
    Cuts cs [.text cs]
  | placeholder {before inner rest segs} :
    Cuts rest segs →
    Cuts (before ++ braced inner ++ rest) (.text before :: .placeholder (braced inner) :: segs)

section Cutting

variable {cs : List Char} {n : Nat}

/-- The first closing braces stand behind the characters in front of them. -/
lemma firstClosing_eq_some (h : firstClosing? cs = some n) :
    ∃ inner rest, cs = inner ++ ['\x7d', '\x7d'] ++ rest ∧ n = inner.length + 2 := by
  fun_induction firstClosing? cs generalizing n with
  | case1 rest =>
    cases h
    exact ⟨[], rest, rfl, rfl⟩
  | case2 c rest _ ih =>
    obtain ⟨m, found, rfl⟩ := Option.map_eq_some_iff.1 h
    obtain ⟨inner, rest, rfl, rfl⟩ := ih found
    exact ⟨c :: inner, rest, rfl, rfl⟩
  | case3 => cases h

/-- The end that is found lies behind two closing braces. -/
lemma closing_eq_some (h : closing? cs = some n) :
    ∃ inner rest, cs = inner ++ ['\x7d', '\x7d'] ++ rest ∧ n = inner.length + 2 := by
  fun_induction closing? cs generalizing n with
  | case1 rest =>
    cases h
    exact ⟨[], rest, rfl, rfl⟩
  | case2 c rest _ quote body literal ih =>
    obtain ⟨m, found, rfl⟩ := Option.map_eq_some_iff.1 h
    obtain ⟨inner, tail, split, rfl⟩ := ih found
    -- Braces are left behind the literal, and so it lies within the text.
    have within : body.length < rest.length := by
      rw [← List.drop_eq_nil_iff.not.trans Nat.not_le, split]
      have braces := List.append_ne_nil_of_right_ne_nil inner (List.cons_ne_nil '\x7d' ['\x7d'])
      exact List.append_ne_nil_of_left_ne_nil braces tail
    refine ⟨c :: (rest.take body.length ++ inner), tail, ?_, ?_⟩
    · rw [List.cons_append, List.cons_append, List.append_assoc, List.append_assoc, ← List.append_assoc inner,
        ← split, List.take_append_drop]
    · rw [List.length_cons, List.length_append, List.length_take_of_le within.le]
      omega
  | case3 c rest _ quote none => exact firstClosing_eq_some h
  | case4 c rest _ plain ih =>
    obtain ⟨m, found, rfl⟩ := Option.map_eq_some_iff.1 h
    obtain ⟨inner, rest, rfl, rfl⟩ := ih found
    exact ⟨c :: inner, rest, rfl, rfl⟩
  | case5 => cases h

/-- A text without a placeholder is in front as a whole. -/
lemma untilPlaceholder_eq_none {before : List Char} (h : untilPlaceholder cs = (before, none)) :
    before = cs := by
  induction cs generalizing before with
  | nil =>
    cases h
    rfl
  | cons c rest ih =>
    rw [untilPlaceholder] at h
    split at h
    · split at h
      · cases h
      · cases h
        rfl
    · cases later : untilPlaceholder rest with
      | mk front length =>
        rw [later] at h
        cases h
        rw [ih later]

/-- A placeholder that is found opens behind the text in front of it, and its braces close. -/
lemma untilPlaceholder_eq_some {before : List Char} (h : untilPlaceholder cs = (before, some n)) :
    ∃ rest, cs = before ++ (opening ++ rest) ∧ closing? rest = some n := by
  induction cs generalizing before with
  | nil => cases h
  | cons c rest ih =>
    rw [untilPlaceholder] at h
    split at h
    · next opens =>
      split at h
      · next found =>
        cases h
        obtain ⟨tail, split⟩ := List.isPrefixOf_iff_prefix.1 opens
        rw [← split] at found ⊢
        exact ⟨tail, rfl, found⟩
      · cases h
    · cases later : untilPlaceholder rest with
      | mk front length =>
        rw [later] at h
        cases h
        obtain ⟨tail, split, found⟩ := ih later
        exact ⟨tail, congrArg (List.cons c) split, found⟩

/-- A template is made up of its segments. -/
lemma cuts_segments (cs : List Char) : Cuts cs (segments cs) := by
  fun_induction segments cs with
  | case1 => exact .text
  | case2 c rest before whole =>
    rw [untilPlaceholder_eq_none whole]
    exact .text
  | case3 c rest before n cut ih =>
    -- Behind the opening braces the placeholder goes on to the braces that close it.
    obtain ⟨tail, split, found⟩ := untilPlaceholder_eq_some cut
    obtain ⟨inner, behind, rfl, rfl⟩ := closing_eq_some found
    have whole : c :: rest = before ++ (braced inner ++ behind) := by
      rw [split, braced, List.append_assoc, List.append_assoc, List.append_assoc]
    rw [← List.drop_drop, whole, List.drop_left, ← length_braced, List.drop_left] at ih
    rw [← List.drop_drop, whole, List.drop_left, ← length_braced, List.take_left, List.drop_left,
      ← List.append_assoc]
    exact .placeholder ih

end Cutting

section Spans

variable {cs : List Char} {segs : List Segment}

/-- The slice between two lengths is what stands there. -/
lemma slice_middle (front middle rest : List Char) :
    slice (front ++ middle ++ rest) (front.length, (front ++ middle).length) = middle := by
  rw [slice, List.take_left, List.drop_left]

/-- Spans do not start before the place they are counted from. -/
lemma le_of_mem_spansFrom {position : Nat} {span : Nat × Nat} (h : span ∈ spansFrom position segs) :
    position ≤ span.1 := by
  induction segs generalizing position with
  | nil => cases h
  | cons seg segs ih =>
    cases seg with
    | text chars => exact Nat.le_of_add_right_le (ih h)
    | placeholder chars =>
      rcases List.mem_cons.1 h with rfl | h
      · exact Nat.le_refl _
      · exact Nat.le_of_add_right_le (ih h)

/-- Each placeholder ends before the next one starts. -/
lemma pairwise_spansFrom (position : Nat) (segs : List Segment) :
    (spansFrom position segs).Pairwise fun span next => span.2 ≤ next.1 := by
  induction segs generalizing position with
  | nil => exact .nil
  | cons seg segs ih =>
    cases seg with
    | text chars => exact ih _
    | placeholder chars => exact .cons (fun next h => le_of_mem_spansFrom h) (ih _)

/-- A span of a text holds a placeholder with its braces. -/
structure Braced (cs : List Char) (span : Nat × Nat) : Prop where
  nonempty : span.1 < span.2
  within : span.2 ≤ cs.length
  opens : opening <+: slice cs span
  closes : ['\x7d', '\x7d'] <:+ slice cs span

/-- A source in braces is a braced span. -/
lemma braced_middle (front inner rest : List Char) :
    Braced (front ++ braced inner ++ rest) (front.length, (front ++ braced inner).length) := by
  have middle := slice_middle front (braced inner) rest
  refine ⟨?_, (List.prefix_append _ rest).length_le, ?_, ?_⟩
  · rw [List.length_append, length_braced]
    exact Nat.lt_add_of_pos_right (Nat.succ_pos _)
  · rw [middle, braced, List.append_assoc]
    exact List.prefix_append ..
  · rw [middle]
    exact List.suffix_append ..

namespace Cuts

/-- Where a placeholder is, and what is in front of and behind it. -/
lemma spansFrom_placeholder (front before chars : List Char) (segs : List Segment) :
    spansFrom front.length (.text before :: .placeholder chars :: segs) =
      ((front ++ before).length, (front ++ before ++ chars).length) ::
        spansFrom (front ++ before ++ chars).length segs := by
  rw [spansFrom, spansFrom, @List.length_append _ (front ++ before) chars, List.length_append]

/-- The spans of the placeholders of a text are braced. -/
lemma spans_braced (h : Cuts cs segs) (front : List Char) :
    ∀ span ∈ spansFrom front.length segs, Braced (front ++ cs) span := by
  induction h generalizing front with
  | text => exact List.forall_mem_nil _
  | @placeholder before inner rest segs _ ih =>
    rw [spansFrom_placeholder, ← List.append_assoc, ← List.append_assoc]
    exact List.forall_mem_cons.2 ⟨braced_middle (front ++ before) inner rest, ih _⟩

/-- The slices at the spans are the placeholders. -/
lemma slices (h : Cuts cs segs) (front : List Char) :
    (spansFrom front.length segs).map (slice (front ++ cs)) = segs.filterMap Segment.placeholder? := by
  induction h generalizing front with
  | text => rfl
  | @placeholder before inner rest segs _ ih =>
    have next := ih (front ++ before ++ braced inner)
    rw [spansFrom_placeholder, ← List.append_assoc, ← List.append_assoc, List.map_cons, slice_middle, next]
    rfl

/-- Segments are rendered one by one as the text that they make up is with the texts of the placeholders in
their place. -/
lemma render (h : Cuts cs segs) (env : Environment) (limit : Int) (front : List Char) :
    let spans := spansFrom front.length segs
    (segs.mapM (env.renderSegment limit)).map String.join =
      (spans.mapM fun span => env.renderPlaceholder limit (slice (front ++ cs) span)).map fun texts =>
        String.ofList (substitute (front ++ cs) front.length spans texts) := by
  induction h generalizing front with
  | @text cs =>
    have left : substitute (front ++ cs) front.length [] [] = cs := by
      rw [substitute, List.drop_left]
      exact nofun
    intro spans
    rw [show spans = [] from rfl, List.mapM_cons, List.mapM_nil, List.mapM_nil]
    show Except.ok (String.join [String.ofList cs]) = Except.ok (String.ofList (substitute _ _ [] []))
    rw [left, String.join_cons, String.join_nil, String.append_empty]
  | @placeholder before inner rest segs _ ih =>
    have next := ih (front ++ before ++ braced inner)
    have first := slice_middle (front ++ before) (braced inner) rest
    have plain := slice_middle front before (braced inner ++ rest)
    rw [← List.append_assoc] at plain
    intro spans
    have behind : spans = _ := spansFrom_placeholder front before (braced inner) segs
    have literal : env.renderSegment limit (.text before) = pure (String.ofList before) := rfl
    rw [behind, ← List.append_assoc, ← List.append_assoc, map_mapM_cons, map_mapM_cons, first, literal, pure_bind,
      map_mapM_cons]
    -- Both sides go on with the text of this placeholder, in front of which the plain text stands.
    refine congrArg (env.renderPlaceholder limit (braced inner) >>= ·) (funext fun text => ?_)
    have written := congrArg (Except.map fun rendered => String.ofList before ++ (text ++ rendered)) next
    rw [map_map, map_map] at written
    simp only [substitute, plain, String.join_cons, String.ofList_append, String.ofList_toList,
      String.append_assoc]
    exact written

end Cuts

end Spans

/-- A source is not evaluated, or its value is not rendered, for a reason. -/
inductive Fails (env : Environment) (limit : Int) (source : String) : ExpressionError → Prop where
  | evaluation {e} :
    (env.evaluateText source limit).result = .error e →
    Fails env limit source e
  | rendering {x cause} :
    (env.evaluateText source limit).result = .ok x →
    (if x.kind = .array ∨ x.kind = .object then x.value.toJsonText else x.value.toText) = .error cause →
    Fails env limit source (.failed cause none)

section Rendering

variable {env : Environment} {limit : Int}

/-- A placeholder fails when its characters fail as a source. -/
lemma renderPlaceholder_eq_error {chars : List Char} {e : ExpressionError} :
    env.renderPlaceholder limit chars = .error e ↔ Fails env limit (String.ofList chars) e := by
  rw [Environment.renderPlaceholder, bind_eq_error]
  constructor
  · rintro (failed | ⟨x, evaluated, unrendered⟩)
    · exact .evaluation failed
    · have rendered := rendered_evaluated evaluated
      cases value : x.value.rendered with
      | ok text =>
        simp only [value] at unrendered
        cases unrendered
      | error cause =>
        simp only [value] at unrendered
        cases unrendered
        exact .rendering evaluated (rendered.symm.trans value)
  · intro fails
    cases fails with
    | evaluation failed => exact .inl failed
    | rendering evaluated unrendered =>
      refine .inr ⟨_, evaluated, ?_⟩
      rw [rendered_evaluated evaluated, unrendered]
      rfl

/-- A template is rendered as its segments, one joined to the other. -/
lemma render_eq (template : String) :
    env.render template limit =
      (renderSegments (env.renderPlaceholder limit) [] (segments template.toList)).map String.join := by
  rw [Environment.render]
  cases renderSegments (env.renderPlaceholder limit) [] (segments template.toList) with
  | error => rfl
  | ok => rfl

/-- A template is rendered by substitution. -/
lemma render_spans (template : String) :
    env.render template limit =
      ((spans template.toList).mapM fun span => env.renderPlaceholder limit (slice template.toList span)).map
        fun texts => String.ofList (substitute template.toList 0 (spans template.toList) texts) := by
  rw [render_eq, renderSegments_eq (List.forall_mem_nil _)]
  exact (cuts_segments template.toList).render env limit []

end Rendering

/-- The placeholders of a template are apart, in the order of the text, and each has its braces. Rendering fails
as the first placeholder without a text does, and otherwise puts the text of each placeholder in its place and
keeps the other characters. No placeholder is evaluated twice, and those that are evaluated are evaluated in the
order of the text, to the last one if none fails. -/
theorem render_substitutes (env : Environment) (limit : Int) (template : String) :
    let cs := template.toList
    (∀ span ∈ spans cs, Braced cs span) ∧
      (spans cs).Pairwise (fun span next => span.2 ≤ next.1) ∧
      (∀ e, env.render template limit = .error e ↔
        ∃ before span after, spans cs = before ++ span :: after ∧
          (∀ earlier ∈ before, ∃ text, Renders env limit (String.ofList (slice cs earlier)) text) ∧
          Fails env limit (String.ofList (slice cs span)) e) ∧
      (∀ result, env.render template limit = .ok result ↔
        ∃ texts, List.Forall₂ (fun span text => Renders env limit (String.ofList (slice cs span)) text)
            (spans cs) texts ∧
          String.ofList (substitute cs 0 (spans cs) texts) = result) ∧
      ∃ texts noted,
        ((renderSegments (noting (env.renderPlaceholder limit)) [] (segments cs)).run.run []).run =
            (texts, noted) ∧
          texts.map String.join = env.render template limit ∧
          noted.Nodup ∧ noted.Sublist ((spans cs).map (slice cs)) ∧
          ∀ result, env.render template limit = .ok result → ∀ span ∈ spans cs, slice cs span ∈ noted := by
  intro cs
  have cuts : Cuts cs (segments cs) := cuts_segments cs
  refine ⟨cuts.spans_braced [], pairwise_spansFrom 0 _, fun e => ?_, fun result => ?_, ?_⟩
  · rw [render_spans, map_eq_error, mapM_eq_error]
    simp only [renderPlaceholder_eq_ok, renderPlaceholder_eq_error]
    rfl
  · rw [render_spans, map_eq_ok]
    simp only [mapM_eq_ok, renderPlaceholder_eq_ok]
    rfl
  · obtain ⟨noted, run, notes⟩ := renderSegments_noting (env.renderPlaceholder limit) [] (segments cs) []
    -- The memo is empty at first, so each placeholder that was needed is noted.
    have slices : (spans cs).map (slice cs) = _ := cuts.slices []
    refine ⟨_, noted, run, (render_eq template).symm, notes.nodup, slices ▸ notes.sublist, ?_⟩
    intro result rendered span mem
    rw [render_eq, map_eq_ok] at rendered
    obtain ⟨texts, all, -⟩ := rendered
    rcases notes.complete texts all (slice cs span) (slices ▸ List.mem_map_of_mem mem) with evaluated | known
    · exact evaluated
    · cases known

end WorkflowExpr
