import WorkflowExpr.Proofs.Expr.Extent
import WorkflowExpr.Template.Segment

/-!
# Where placeholders end

The end of a placeholder is looked for without knowing the expression in it. A text that is scanned into
tokens is passed over from its start to its end: what is no string literal holds neither quotes nor
closing braces, and a string literal that is a token is skipped as a whole.
-/

namespace WorkflowExpr

open Lexeme

/-- The closing braces behind a quiet character are one character farther on. -/
lemma closing_quiet {c : Char} {rest : List Char} (h : isQuiet c = true) :
    closing? (c :: rest) = (closing? rest).map (· + 1) := by
  rw [isQuiet, Bool.and_eq_true, Bool.not_eq_true', bne_iff_ne] at h
  rw [closing?, if_neg (by simp [h.1])]
  exact fun _ e _ => h.2 e

/-- The closing braces behind a string literal are farther on by its length. -/
lemma closing_quote {q : Char} {rest body : List Char} (hq : isQuote q = true)
    (h : afterQuote? true q rest = some body) :
    closing? (q :: rest) = (closing? (rest.drop body.length)).map (· + (body.length + 1)) := by
  rw [closing?, if_pos hq]
  · simp only [h]
  · rintro _ rfl _
    cases hq

/-- The closing braces behind quiet characters are farther on by their number. -/
lemma closing_front {l : List Char} (h : ∀ c ∈ l, isQuiet c = true) (rest : List Char) :
    closing? (l ++ rest) = (closing? rest).map (· + l.length) := by
  induction l with
  | nil => exact (Option.map_id_apply ..).symm
  | cons c l ih =>
    obtain ⟨hc, hl⟩ := List.forall_mem_cons.1 h
    rw [List.cons_append, closing_quiet hc, ih hl, Option.map_map]
    rfl

/-- A token is passed over. -/
lemma closing_first {cs chars : List Char} {k : Terminal} (h : first? cs = some (k, chars))
    (rest : List Char) : closing? (chars ++ rest) = (closing? rest).map (· + chars.length) := by
  obtain quiet | literal := first_front h
  · exact closing_front quiet.quiet rest
  · obtain ⟨q, tail, body, rfl, hq, hb, rfl⟩ := string_eq_some literal
    have ends := (afterQuote_append hb).2 true rest
    rw [List.cons_append, closing_quote hq ends, List.drop_left, List.length_cons]

/-- A text that is scanned into tokens is passed over. -/
theorem closing_scanned {position : Nat} {cs : List Char} (h : (scanFrom position cs).stuck = none)
    (rest : List Char) : closing? (cs ++ rest) = (closing? rest).map (· + cs.length) := by
  fun_induction scanFrom position cs with
  | case1 => exact (Option.map_id_apply ..).symm
  | case2 position c cs space ih =>
    have quiet : isQuiet c = true := quiet_of_class (by decide) (by decide) (by decide) space
    rw [List.cons_append, closing_quiet quiet, ih h, Option.map_map]
    rfl
  | case3 => cases h
  | case4 position c cs _ k chars hf _ ih =>
    -- The token is a front part of the text, and the rest is passed over by induction.
    have passed := ih h
    obtain ⟨tail, e⟩ := first_prefix hf
    rw [← e, List.drop_left] at passed
    rw [← e, List.append_assoc, closing_first hf, passed, Option.map_map, List.length_append]
    refine congrArg (fun f => Option.map f (closing? rest)) (funext fun n => ?_)
    simp only [Function.comp_apply]
    omega

/-- The source of an expression is passed over up to the braces that close its placeholder. -/
lemma closing_source {source : List Char} {e : Expr} (hu : (unwrap source).2 = false)
    (hp : parseSource (unwrap source).1 = .ok e) (rest : List Char) :
    closing? (source ++ '\x7d' :: '\x7d' :: rest) = some (source.length + 2) := by
  rw [unwrap_eq_trim hu] at hp
  obtain ⟨scanned, -⟩ := parseSource_eq_ok_iff.1 hp
  obtain ⟨before, after, split, hb, ha⟩ := Text.exists_trim source
  have blank {c : Char} : Text.isBlank c = true → isQuiet c = true :=
    quiet_of_class (by decide) (by decide) (by decide)
  have braces : closing? ('\x7d' :: '\x7d' :: rest) = some 2 := by
    rw [closing?]
  rw [split, List.append_assoc, List.append_assoc, closing_front fun c hc => blank (hb c hc),
    closing_scanned scanned, closing_front fun c hc => blank (ha c hc), braces]
  simp only [Option.map_some, List.length_append]
  exact congrArg some (by omega)

end WorkflowExpr
