import WorkflowExpr.Proofs.Evaluation.Walk
import WorkflowExpr.Proofs.Template.Closing
import WorkflowExpr.Proofs.Template.Memo

/-!
# Templates made of sources and literals

A template that is put together from literal texts and from sources in braces falls apart into these
again, and is rendered by putting the text of each value in the place of its source. Neither a literal
that ends or starts with a part of the braces nor a source with braces in its string literals is in the
way, and what is rendered is not looked at again.
-/

namespace WorkflowExpr

/-- A literal text, and then pieces with a literal text after each. -/
def interleave (literal : String) : List (String × String) → String
  | [] => literal
  | (piece, next) :: rest => literal ++ piece ++ interleave next rest

/-- A source with the braces of a placeholder around it. -/
def placeholderOf (source : String) : String :=
  "$\x7b\x7b" ++ source ++ "\x7d\x7d"

/-- Characters with the braces of a placeholder around them. -/
def braced (source : List Char) : List Char :=
  opening ++ source ++ ['\x7d', '\x7d']

/-- The characters of a placeholder are those of its source in braces. -/
lemma toList_placeholderOf (source : String) : (placeholderOf source).toList = braced source.toList := by
  rw [placeholderOf, String.toList_append, String.toList_append]
  rfl

/-- The braces of a placeholder take five characters. -/
lemma length_braced (source : List Char) : (braced source).length = source.length + 2 + 3 := by
  rw [braced, List.length_append, List.length_append, Nat.add_comm opening.length, Nat.add_right_comm]
  rfl

/-- A text in which no placeholder opens. -/
def Plain (literal : String) : Prop :=
  ¬ opening <:+: literal.toList

instance : DecidablePred Plain :=
  fun literal => inferInstanceAs (Decidable (¬ opening <:+: literal.toList))

section Cutting

variable {cs rest : List Char}

/-- Behind the end of a plain text a placeholder opens where its braces stand, and not before. -/
lemma not_opening {c : Char} (h : ¬ opening <:+: c :: cs) :
    opening.isPrefixOf (c :: cs ++ (opening ++ rest)) = false := by
  rw [Bool.eq_false_iff, ne_eq, List.isPrefixOf_iff_prefix]
  intro front
  -- With one or two characters left, a brace would have to be a dollar sign.
  match cs, h, front with
  | [], _, front =>
    obtain ⟨tail, e⟩ := front
    cases e
  | [d], _, front =>
    obtain ⟨tail, e⟩ := front
    cases e
  | d :: e :: cs, h, front =>
    refine h (List.IsPrefix.isInfix ?_)
    exact List.prefix_of_prefix_length_le front (List.prefix_append _ _) (by simp [opening])

/-- The text before a placeholder is found. -/
lemma untilPlaceholder_opening {n : Nat} (h : ¬ opening <:+: cs) (hn : closing? rest = some n) :
    untilPlaceholder (cs ++ (opening ++ rest)) = (cs, some n) := by
  induction cs with
  | nil =>
    have opens : opening.isPrefixOf ('$' :: '\x7b' :: '\x7b' :: rest) = true :=
      List.isPrefixOf_iff_prefix.2 (List.prefix_append opening rest)
    change untilPlaceholder ('$' :: '\x7b' :: '\x7b' :: rest) = ([], some n)
    rw [untilPlaceholder, if_pos opens, List.drop_succ_cons, List.drop_succ_cons,
      List.drop_succ_cons, List.drop_zero, hn]
  | cons c cs ih =>
    have later : ¬ opening <:+: cs := fun inside => h (inside.trans (List.suffix_cons c cs).isInfix)
    rw [List.cons_append, untilPlaceholder, if_neg, ih later]
    rw [← List.cons_append, not_opening h]
    exact Bool.false_ne_true

/-- In a plain text no placeholder is found. -/
lemma untilPlaceholder_plain (h : ¬ opening <:+: cs) : untilPlaceholder cs = (cs, none) := by
  induction cs with
  | nil => rfl
  | cons c cs ih =>
    have later : ¬ opening <:+: cs := fun inside => h (inside.trans (List.suffix_cons c cs).isInfix)
    rw [untilPlaceholder, if_neg, ih later]
    intro front
    exact h (List.isPrefixOf_iff_prefix.1 front).isInfix

/-- A plain text is one segment. -/
lemma segments_plain (h : ¬ opening <:+: cs) : segments cs = [.text cs] := by
  cases cs with
  | nil => rw [segments]
  | cons c cs =>
    rw [segments, untilPlaceholder_plain h]

/-- A text with a placeholder is cut before and behind it. -/
lemma segments_cut {before : List Char} {n : Nat} (h : untilPlaceholder cs = (before, some n)) :
    segments cs =
      .text before :: .placeholder ((cs.drop before.length).take (n + 3)) ::
        segments (cs.drop (before.length + (n + 3))) := by
  cases cs with
  | nil => cases h
  | cons c cs => rw [segments, h]

/-- A plain text and a placeholder are two segments. -/
lemma segments_placeholder {source : List Char} (h : ¬ opening <:+: cs)
    (hs : closing? (source ++ '\x7d' :: '\x7d' :: rest) = some (source.length + 2)) :
    segments (cs ++ (braced source ++ rest)) = .text cs :: .placeholder (braced source) :: segments rest := by
  have split : braced source ++ rest = opening ++ (source ++ '\x7d' :: '\x7d' :: rest) := by
    rw [braced, List.append_assoc, List.append_assoc]
    rfl
  have cut : untilPlaceholder (cs ++ (braced source ++ rest)) = (cs, some (source.length + 2)) := by
    rw [split]
    exact untilPlaceholder_opening h hs
  rw [segments_cut cut, ← List.drop_drop, List.drop_left, ← length_braced, List.take_left, List.drop_left]

end Cutting

/-- A template of plain texts and placeholders is cut into these. -/
lemma segments_interleave {literal : String} {parts : List (String × String)} (h : Plain literal)
    (hl : ∀ part ∈ parts, Plain part.2)
    (hs : ∀ part ∈ parts, ∀ rest,
      closing? (part.1.toList ++ '\x7d' :: '\x7d' :: rest) = some (part.1.toList.length + 2)) :
    segments (interleave literal (parts.map fun part => (placeholderOf part.1, part.2))).toList =
      .text literal.toList :: parts.flatMap fun part =>
        [.placeholder (placeholderOf part.1).toList, .text part.2.toList] := by
  induction parts generalizing literal with
  | nil => exact segments_plain h
  | cons part parts ih =>
    obtain ⟨hp, hps⟩ := List.forall_mem_cons.1 hl
    obtain ⟨hc, hcs⟩ := List.forall_mem_cons.1 hs
    rw [List.map_cons, interleave, String.toList_append, String.toList_append, List.append_assoc,
      toList_placeholderOf, segments_placeholder h (hc _), ih hp hps hcs, List.flatMap_cons,
      ← toList_placeholderOf]
    rfl

/-- A source is evaluated to a value that is rendered as a text: an array or an object as its JSON text
and a scalar by coercion. -/
def Renders (env : Environment) (limit : Int) (source text : String) : Prop :=
  ∃ x, (env.evaluateText source limit).result = .ok x ∧
    (if x.kind = .array ∨ x.kind = .object then x.value.toJsonText else x.value.toText) = .ok text

/-- A source in the braces of a placeholder is parsed as the source is. -/
lemma parse_placeholderOf {source : String} {limit : Int} {parsed : Parsed}
    (hu : (unwrap source.toList).2 = false) (h : parse source limit = .ok parsed) :
    parse (placeholderOf source) limit = .ok parsed := by
  have inner : (unwrap (placeholderOf source).toList).1 = (unwrap source.toList).1 := by
    rw [unwrap_eq_trim hu, toList_placeholderOf]
    exact congrArg Prod.fst (unwrap_placeholder source.toList)
  rw [parse_eq_ok_iff] at h ⊢
  rw [inner]
  exact h

section Rendering

variable {env : Environment} {limit : Int}

/-- What an evaluated value is rendered as depends on its kind. -/
lemma rendered_evaluated {source : String} {x : Evaluated}
    (h : (env.evaluateText source limit).result = .ok x) :
    x.value.rendered =
      if x.kind = .array ∨ x.kind = .object then x.value.toJsonText else x.value.toText := by
  obtain ⟨parsed, -, evaluated⟩ := evaluateText_eq_ok.1 h
  obtain ⟨a, -, -, kind, value, -⟩ := evaluate_eq_ok.1 evaluated
  rw [← value] at kind
  rw [Value.rendered, kind]
  cases x.kind <;> rfl

/-- A placeholder is rendered to what its characters are rendered to as a source. -/
lemma renderPlaceholder_eq_ok {chars : List Char} {text : String} :
    env.renderPlaceholder limit chars = .ok text ↔ Renders env limit (String.ofList chars) text := by
  rw [Environment.renderPlaceholder, bind_eq_ok]
  refine exists_congr fun x => and_congr_right fun evaluated => ?_
  rw [← rendered_evaluated evaluated]
  cases x.value.rendered with
  | ok => exact ⟨fun h => congrArg Except.ok (Except.ok.inj h), fun h => congrArg Except.ok (Except.ok.inj h)⟩
  | error => exact ⟨nofun, nofun⟩

/-- A placeholder is rendered as the text of the value of its source. -/
lemma renderPlaceholder_placeholderOf {source text : String}
    (hu : (unwrap source.toList).2 = false) (h : Renders env limit source text) :
    env.renderPlaceholder limit (placeholderOf source).toList = .ok text := by
  obtain ⟨x, hx, ht⟩ := h
  obtain ⟨parsed, hp, he⟩ := evaluateText_eq_ok.1 hx
  rw [renderPlaceholder_eq_ok, String.ofList_toList]
  exact ⟨x, evaluateText_eq_ok.2 ⟨parsed, parse_placeholderOf hu hp, he⟩, ht⟩

/-- Placeholders with literal texts between them are rendered as the texts of their sources with these
between them. -/
lemma renderSegments_parts {literal : String} {text : String → String} {parts : List (String × String)}
    (h : ∀ part ∈ parts,
      env.renderPlaceholder limit (placeholderOf part.1).toList = .ok (text part.1)) :
    renderSegments (env.renderPlaceholder limit) [] (.text literal.toList :: parts.flatMap fun part =>
        [.placeholder (placeholderOf part.1).toList, .text part.2.toList]) =
      .ok (literal :: parts.flatMap fun part => [text part.1, part.2]) := by
  rw [renderSegments_eq (List.forall_mem_nil _), mapM_eq_ok]
  refine .cons (congrArg Except.ok String.ofList_toList) ?_
  induction parts with
  | nil => exact .nil
  | cons part parts ih =>
    obtain ⟨hp, hps⟩ := List.forall_mem_cons.1 h
    exact .cons hp (.cons (congrArg Except.ok String.ofList_toList) (ih hps))

/-- Literals and pieces in turn join to the interleaved text. -/
lemma join_interleave (literal : String) (pieces : List (String × String)) :
    String.join (literal :: pieces.flatMap fun piece => [piece.1, piece.2]) =
      interleave literal pieces := by
  induction pieces generalizing literal with
  | nil =>
    rw [List.flatMap_nil, String.join_cons, String.join_nil, String.append_empty]
    rfl
  | cons piece pieces ih =>
    rw [List.flatMap_cons, String.join_cons]
    have next := ih piece.2
    change literal ++ String.join (piece.1 :: (piece.2 :: _)) = literal ++ piece.1 ++ interleave _ _
    rw [String.join_cons, ← next, String.append_assoc]
    rfl

end Rendering

/-- A template that is put together from literal texts, in which no placeholder opens, and from sources
in braces, each of which is parsed, has just these placeholders; and where every source has a value that
is rendered, the template is rendered with these texts in the place of the placeholders. -/
theorem template_round_trip (env : Environment) (limit : Int) (literal : String)
    (parts : List (String × String)) (plain : Plain literal ∧ ∀ part ∈ parts, Plain part.2)
    (accepted : ∀ part ∈ parts,
      (unwrap part.1.toList).2 = false ∧ ∃ parsed, parse part.1 limit = .ok parsed) :
    placeholders
        (interleave literal (parts.map fun part => (placeholderOf part.1, part.2))).toList =
      parts.map (fun part => (placeholderOf part.1).toList) ∧
    ∀ text : String → String, (∀ part ∈ parts, Renders env limit part.1 (text part.1)) →
      env.render (interleave literal (parts.map fun part => (placeholderOf part.1, part.2))) limit =
        .ok (interleave literal (parts.map fun part => (text part.1, part.2))) := by
  have cut := segments_interleave plain.1 plain.2 fun part hp rest => by
    obtain ⟨hu, parsed, h⟩ := accepted part hp
    obtain ⟨-, hs, -⟩ := parse_eq_ok_iff.1 h
    exact closing_source hu hs rest
  constructor
  · rw [placeholders, cut, List.filterMap_cons_none rfl, List.filterMap_flatMap]
    exact (List.map_eq_flatMap ..).symm
  · intro text rendered
    have placed : ∀ part ∈ parts,
        env.renderPlaceholder limit (placeholderOf part.1).toList = .ok (text part.1) :=
      fun part hp => renderPlaceholder_placeholderOf (accepted part hp).1 (rendered part hp)
    rw [Environment.render, cut, renderSegments_parts placed]
    apply congrArg Except.ok
    rw [← join_interleave, List.flatMap_map]

/-- Closing braces in a string literal, in its value and in the text behind it are kept apart. -/
theorem template_round_trip_braces :
    let source := "'\x7d\x7d'"
    let parts := [(source, "\x7d$")]
    (Plain "$" ∧ ∀ part ∈ parts, Plain part.2) ∧
      (∀ part ∈ parts,
        (unwrap part.1.toList).2 = false ∧ ∃ parsed, parse part.1 1 = .ok parsed) ∧
      ({} : Environment).render "$$\x7b\x7b'\x7d\x7d'\x7d\x7d\x7d$" 1 =
        .ok "$\x7d\x7d\x7d$" := by
  intro source parts
  have parsed : parse source 1 = .ok ⟨source, .literal (.string "\x7d\x7d")⟩ := by
    refine parse_eq_ok_iff.2 ⟨by decide +kernel, parseSource_eq_ok_iff.2 ⟨by decide +kernel, ?_⟩, rfl⟩
    have tokens : (scan (unwrap source.toList).1).tokens =
        [⟨.string, ['\'', '\x7d', '\x7d', '\''], 0⟩] := by decide +kernel
    rw [tokens]
    exact Derives.toOr (.accessPass (.string rfl))
  have plain : Plain "$" ∧ ∀ part ∈ parts, Plain part.2 :=
    ⟨by decide, List.forall_mem_singleton.2 (show Plain "\x7d$" by decide)⟩
  have accepted : ∀ part ∈ parts,
      (unwrap part.1.toList).2 = false ∧ ∃ parsed, parse part.1 1 = .ok parsed :=
    List.forall_mem_singleton.2 ⟨by decide +kernel, _, parsed⟩
  refine ⟨plain, accepted, ?_⟩
  refine (template_round_trip {} 1 "$" parts plain accepted).2 (fun _ => "\x7d\x7d") ?_
  refine List.forall_mem_singleton.2 ⟨⟨.string "\x7d\x7d", .string, []⟩, ?_, rfl⟩
  exact evaluateText_eq_ok.2 ⟨_, parsed, rfl⟩

end WorkflowExpr
