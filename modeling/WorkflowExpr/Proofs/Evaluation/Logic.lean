import WorkflowExpr.Proofs.Evaluation.Occurrence

/-!
# Laws of the logical operators

The logical operators return one of their operands, consume the left one and may leave the right one
alone. The laws of truth values hold of them all the same, and not only of what they return: two sides of
a law leave the same trace and fail alike, so that one can stand for the other in any expression.
-/

namespace WorkflowExpr

/-- A path that was just recorded is not recorded once more. -/
lemma Trace.record_record (t : Trace) (path : Option String) :
    (t.record path).record path = t.record path := by
  cases path with
  | none => rfl
  | some p => rw [record, if_pos (t.mem_hits_record p)]

/-- Consuming a path once more makes no difference. -/
lemma Walk.record_record {α : Type} (path : Option String) (m : Walk α) :
    (Walk.record path >>= fun _ => Walk.record path >>= fun _ => m) =
      Walk.record path >>= fun _ => m := by
  funext t
  show m.run ((t.record path).record path) = m.run (t.record path)
  rw [t.record_record]

section Laws

variable {env : Environment} {op dual : Operator} {stop : Bool}

/-- A row of one logical operator may be grouped either way. -/
lemma resolve_logical_assoc (h : op.stopsAt = some stop) (a b c : Expr) :
    resolve env (.binary op (.binary op a b) c) = resolve env (.binary op a (.binary op b c)) := by
  simp only [resolve_logical h, bind_assoc]
  congr 1
  funext x
  by_cases stopped : x.value.isTruthy = stop
  · simp only [if_pos stopped, pure_bind, Walk.record_record]
  · simp only [if_neg stopped]

/-- A negation consumes its operand and gives the opposite of its truth. -/
lemma resolve_not (operand : Expr) :
    resolve env (.not operand) =
      resolve env operand >>= fun x => Walk.record x.path >>= fun _ =>
        pure (.computed (.boolean !x.value.isTruthy)) :=
  rfl

/-- The negation of what an operator joins is joined by the other operator from the negations. -/
lemma resolve_not_logical (h : op.stopsAt = some stop) (hd : dual.stopsAt = some !stop)
    (a b : Expr) :
    resolve env (.not (.binary op a b)) = resolve env (.binary dual (.not a) (.not b)) := by
  simp only [resolve_logical hd, resolve_not, resolve_logical h, bind_assoc, pure_bind]
  congr 1
  funext x
  have opposite : (Resolved.computed (.boolean !x.value.isTruthy)).value.isTruthy = !x.value.isTruthy :=
    rfl
  by_cases stopped : x.value.isTruthy = stop
  · simp only [opposite, Bool.not_inj_iff, if_pos stopped, pure_bind, Walk.record_record]
    rfl
  · simp only [opposite, Bool.not_inj_iff, if_neg stopped]
    rfl

/-- Expressions that resolve alike can stand for one another. -/
lemma evaluate_fill_congr {e e' : Expr} (h : resolve env e = resolve env e') (around : List Shell)
    (source : Option String) :
    env.evaluate (fill around e) source = env.evaluate (fill around e') source := by
  apply evaluate_congr
  cases resolve_fill env around .empty with
  | through behind _ same => rw [same, same, h]
  | past _ same => exact same e e'

end Laws

/-- The logical operators are associative and each is the dual of the other under negation, in any
expression around: both sides of a law give the same value, consumed paths in the same order, the same
requests for hashes, or the same failure. -/
theorem evaluate_logical_laws (env : Environment) (around : List Shell) (a b c : Expr)
    (source : Option String) :
    env.evaluate (fill around (.binary .and (.binary .and a b) c)) source =
      env.evaluate (fill around (.binary .and a (.binary .and b c))) source ∧
    env.evaluate (fill around (.binary .or (.binary .or a b) c)) source =
      env.evaluate (fill around (.binary .or a (.binary .or b c))) source ∧
    env.evaluate (fill around (.not (.binary .and a b))) source =
      env.evaluate (fill around (.binary .or (.not a) (.not b))) source ∧
    env.evaluate (fill around (.not (.binary .or a b))) source =
      env.evaluate (fill around (.binary .and (.not a) (.not b))) source := by
  refine ⟨?_, ?_, ?_, ?_⟩
  · exact evaluate_fill_congr (resolve_logical_assoc rfl a b c) around source
  · exact evaluate_fill_congr (resolve_logical_assoc rfl a b c) around source
  · exact evaluate_fill_congr (resolve_not_logical rfl rfl a b) around source
  · exact evaluate_fill_congr (resolve_not_logical rfl rfl a b) around source

end WorkflowExpr
