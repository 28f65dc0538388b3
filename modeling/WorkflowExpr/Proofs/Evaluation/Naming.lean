import WorkflowExpr.Proofs.Evaluation.Success
import WorkflowExpr.Proofs.Expr.Fault

/-!
# Failures name their expression

A failure tells the text that was to be evaluated, whether the text is no expression, nests too deep, or
fails on the way to a value. The one exception is a value that is reached but is foreign to the language: it is
refused when the walk is over, and that failure has no text.
-/

namespace WorkflowExpr

/-- The text that is read as an expression, without the braces of a placeholder. -/
def bareText (text : String) : String :=
  String.ofList (unwrap text.toList).1

section Reading

variable {text : String} {limit : Int} {fault : SyntaxFault}

/-- A fault of the reading names the whole source. -/
lemma parseSource_expression {source : List Char} (h : parseSource source = .error fault) :
    fault.expression = String.ofList source := by
  rcases parseSource_fault h with ⟨t, -, rfl⟩ | ⟨s, -, ⟨rest, -, rfl⟩ | ⟨-, -, rfl⟩⟩
  · rfl
  · rfl
  · rfl

/-- A fault names the text, and so does the refusal of an expression that nests too deep. -/
lemma parse_expression (nonempty : (unwrap text.toList).1 ≠ []) (h : parse text limit = .error fault) :
    fault.expression = bareText text := by
  rcases parse_error_cases h with ⟨empty, -⟩ | ⟨-, read⟩ | ⟨e, -, rfl⟩
  · exact absurd empty nonempty
  · exact parseSource_expression read
  · rfl

end Reading

/-- Only foreign values have no kind, and each is refused in its own way. -/
lemma Value.kind_eq_error_iff {v : Value} {cause : Failure} :
    v.kind = .error cause ↔ ∃ f, v = .foreign f ∧ cause = f.refusal := by
  constructor
  · intro h
    cases v with
    | foreign f =>
      cases h
      exact ⟨f, rfl, rfl⟩
    | _ => cases h
  · rintro ⟨f, rfl, rfl⟩
    rfl

namespace Environment

variable {env : Environment} {text : String} {limit : Int} {error : ExpressionError}

/-- The expression that a text writes is evaluated up to a value, and the value is foreign. -/
def EndsForeign (env : Environment) (text : String) (limit : Int) (f : Foreign) : Prop :=
  ∃ parsed a t, parse text limit = .ok parsed ∧ Resolves env parsed.root .empty a t ∧ a.value = .foreign f

/-- An evaluation fails on its walk, with the text that was read, or at its end, without one. -/
lemma evaluate_eq_error {e : Expr} {source : Option String} :
    (env.evaluate e source).result = .error error ↔
      (∃ cause t, (consume env e).run .empty = (.error cause, t) ∧ error = .failed cause source) ∨
      ∃ f a t, Resolves env e .empty a t ∧ a.value = .foreign f ∧ error = .failed f.refusal none := by
  rw [evaluate]
  rcases walk : (consume env e).run .empty with ⟨cause | v, t⟩
  · constructor
    · rintro ⟨⟩
      exact .inl ⟨cause, t, rfl, rfl⟩
    · rintro (⟨_, _, ⟨⟩, rfl⟩ | ⟨f, a, t', resolved, -, -⟩)
      · rfl
      · cases walk.symm.trans (consume_yields.2 ⟨a, t', resolved, rfl, rfl⟩)
  · obtain ⟨a, t', resolved, rfl, -⟩ := consume_yields.1 walk
    constructor
    · intro h
      cases kind : a.value.kind with
      | error cause =>
        obtain ⟨f, foreign, rfl⟩ := Value.kind_eq_error_iff.1 kind
        simp only [kind] at h
        cases h
        exact .inr ⟨f, a, t', resolved, foreign, rfl⟩
      | ok k =>
        simp only [kind] at h
        cases h
    · rintro (⟨_, _, ⟨⟩, -⟩ | ⟨f, b, t'', again, foreign, rfl⟩)
      cases resolved.symm.trans again
      simp only [Value.kind_eq_error_iff.2 ⟨f, foreign, rfl⟩]

/-- What is foreign at the end of an evaluation is refused without the text. -/
lemma EndsForeign.result {f : Foreign} (h : env.EndsForeign text limit f) :
    (env.evaluateText text limit).result = .error (.failed f.refusal none) := by
  obtain ⟨parsed, a, t, read, resolved, foreign⟩ := h
  rw [evaluateText, read]
  exact evaluate_eq_error.2 (.inr ⟨f, a, t, resolved, foreign, rfl⟩)

/-- All other failures have the text. -/
lemma evaluateText_error (nonempty : (unwrap text.toList).1 ≠ [])
    (h : (env.evaluateText text limit).result = .error error) :
    error.expression? = some (bareText text) ∨ ∃ f, env.EndsForeign text limit f := by
  rw [evaluateText] at h
  cases read : parse text limit with
  | error fault =>
    rw [read] at h
    cases h
    exact .inl (congrArg some (parse_expression nonempty read))
  | ok parsed =>
    rw [read] at h
    rcases evaluate_eq_error.1 h with ⟨cause, t, -, rfl⟩ | ⟨f, a, t, resolved, foreign, -⟩
    · exact .inl (congrArg some (parse_eq_ok_iff.1 read).1)
    · exact .inr ⟨f, parsed, a, t, read, resolved, foreign⟩

end Environment

/-- The failure of a text that is not empty tells this text, unless it is that of a value which is foreign to
the language; then it tells the type of the value and no text. A context of values of the language gives no
such value. -/
theorem evaluateText_expression (context : List (String × Value)) (host : Capabilities) (text : String)
    (limit : Int) (nonempty : (unwrap text.toList).1 ≠ []) :
    let env : Environment := { context, host }
    (∀ error, (env.evaluateText text limit).result = .error error →
      (error.info.expression = bareText text ↔ ¬ ∃ f, env.EndsForeign text limit f)) ∧
    (∀ f, env.EndsForeign text limit f → ∃ error,
      (env.evaluateText text limit).result = .error error ∧
        error.info = ⟨.type, f.refusal.message, "", 0⟩) ∧
    ((∀ entry ∈ context, entry.2.InModel) → ¬ ∃ f, env.EndsForeign text limit f) := by
  intro env
  refine ⟨fun error failed => ⟨?_, ?_⟩, fun f foreign => ?_, ?_⟩
  · rintro named ⟨f, foreign⟩
    cases failed.symm.trans foreign.result
    exact nonempty (String.ofList_eq_empty_iff.1 named.symm)
  · intro none
    rcases Environment.evaluateText_error nonempty failed with named | foreign
    · rw [ExpressionError.info, named]
      rfl
    · exact absurd foreign none
  · refine ⟨_, foreign.result, ?_⟩
    rw [ExpressionError.info, ExpressionError.kind, f.kind_refusal]
    rfl
  · rintro hc ⟨f, parsed, a, t, read, resolved, foreign⟩
    have shaped := resolved.shaped (fun _ => trivial) (fun entry mem => Value.shaped_true_iff.2 (hc entry mem))
      _ (parse_shaped read)
    rw [foreign] at shaped
    cases shaped.inModel

/-- A member that is not there is reported with the text that asks for it. -/
theorem evaluateText_expression_member :
    let env : Environment := { context := [("github", .object [])] }
    (unwrap "github.ref".toList).1 ≠ [] ∧
      ∃ error, (env.evaluateText "github.ref").result = .error error ∧
        error.info.expression = "github.ref" := by
  intro env
  have ithub : "ithub".toList.all Lexeme.isNameChar = true := by decide
  have ef : "ef".toList.all Lexeme.isNameChar = true := by decide
  let github : Name := ⟨"github", ⟨'g', _, rfl, rfl, List.all_eq_true.1 ithub⟩, by decide⟩
  let ref : Name := ⟨"ref", ⟨'r', _, rfl, rfl, List.all_eq_true.1 ef⟩, by decide⟩
  have fit : (2 : Int) ≤ defaultDepth := by decide
  have read : parse "github.ref" = .ok ⟨"github.ref", .property (.root "github") "ref"⟩ :=
    Place.parse_text (.member (.root github) ref) fit
  have bare : bareText "github.ref" = "github.ref" := (parse_eq_ok_iff.1 read).1.symm
  have nonempty : (unwrap "github.ref".toList).1 ≠ [] := by
    intro empty
    rw [bareText, empty] at bare
    exact absurd bare (by decide)
  have failed : (env.evaluateText "github.ref").result =
      .error (.failed (.unknownProperty "ref" (some "github") []) (some "github.ref")) := by
    rw [Environment.evaluateText, read]
    rfl
  obtain ⟨named, -, model⟩ := evaluateText_expression env.context {} "github.ref" defaultDepth nonempty
  have model := model (List.forall_mem_singleton.2 (.object (List.forall_mem_nil _)))
  refine ⟨nonempty, _, failed, ?_⟩
  rw [(named _ failed).2 model, bare]

/-- A root that is foreign is reported without the text. -/
theorem evaluateText_expression_root :
    let env : Environment := { context := [("github", .foreign (.other "date"))] }
    bareText "github" = "github" ∧
      ∃ error, (env.evaluateText "github").result = .error error ∧
        error.info = ⟨.type, "Unsupported value of type date", "", 0⟩ := by
  intro env
  have foreign : env.EndsForeign "github" defaultDepth (.other "date") :=
    ⟨_, ⟨_, some "github"⟩, .empty, parse_github, resolves_root.2 ⟨rfl, rfl⟩, rfl⟩
  exact ⟨(parse_eq_ok_iff.1 parse_github).1.symm, _, foreign.result, rfl⟩

end WorkflowExpr
