import Mathlib.Tactic.Lemma
import WorkflowExpr.Expr.Basic

/-!
# Nesting depth

The depth of an expression is found while the expression is built, and building stops at the first part that
exceeds the limit. That comes to the same as a look at the depth of the whole: no part is deeper than what it
stands in.
-/

namespace WorkflowExpr

namespace Expr

/-- Whether the expression is a literal or a bare root. -/
def isLeaf : Expr → Bool
  | literal _ => true
  | root _ => true
  | _ => false

/-- Whether the expression respects a nesting limit. A literal or a bare root does not nest and
respects every limit. -/
def fits (e : Expr) (limit : Int) : Bool :=
  e.isLeaf || e.depth ≤ limit

variable {e : Expr} {limit : Int}

/-- An expression that nests no deeper than the limit respects it. -/
lemma fits_of_le (h : e.depth ≤ limit) : e.fits limit = true := by
  rw [fits, Bool.or_eq_true, decide_eq_true_eq]
  exact .inr h

/-- Where some nesting is allowed, an expression respects the limit exactly if it nests no deeper. -/
lemma fits_iff (h : 1 ≤ limit) : e.fits limit = true ↔ e.depth ≤ limit := by
  refine ⟨fun fit => ?_, fits_of_le⟩
  rw [fits, Bool.or_eq_true, decide_eq_true_eq] at fit
  rcases fit with leaf | fit
  · cases e with
    | literal => exact h
    | root => exact h
    | _ => cases leaf
  · exact fit

/-- Parts that nest no deeper than the limit respect it. -/
lemma all_fits_of_le {args : List Expr} (h : depthAll args ≤ limit) :
    (args.all fun arg => arg.fits limit) = true := by
  induction args with
  | nil => rfl
  | cons arg rest ih =>
    rw [depthAll] at h
    have here : (arg.depth : Int) ≤ limit := by omega
    have later : (depthAll rest : Int) ≤ limit := by omega
    rw [List.all_cons, fits_of_le here, ih later]
    rfl

/-- Parts up to the limit respect it, so that what is built on parts is measured if it respects the limit
itself. -/
lemma depthAbove_measured {fit : Bool} {deepest : Nat} (nested : e.isLeaf = false)
    (depth : e.depth = 1 + deepest) (h : deepest ≤ limit → fit = true) :
    ((if fit then some deepest else none) >>= depthAbove limit) =
      if e.fits limit then some e.depth else none := by
  rw [fits, nested, Bool.false_or, depth]
  by_cases le : (1 + deepest : Nat) ≤ limit
  · have fit : fit = true := h (by omega)
    have within : ¬ limit < 1 + deepest := by omega
    rw [fit, decide_eq_true le]
    exact if_neg within
  · rw [decide_eq_false le]
    cases fit with
    | false => rfl
    | true => exact if_pos (by omega)

/-- Two parts are measured one after the other. -/
lemma measured_max (fit fit' : Bool) (m n : Nat) (f : Nat → Option Nat) :
    ((if fit then some m else none) >>= fun a => (if fit' then some n else none) >>= fun b =>
        f (max a b)) =
      (if fit && fit' then some (max m n) else none) >>= f := by
  cases fit with
  | false => rfl
  | true =>
    cases fit' with
    | _ => rfl

variable (limit)

mutual

/-- An expression is measured exactly if it respects the limit, and then as deep as it is. -/
theorem measure_eq : (e : Expr) → e.measure limit = if e.fits limit then some e.depth else none
  | literal _ => rfl
  | root _ => rfl
  | property base _ => by
    rw [measure, measure_eq base]
    exact depthAbove_measured rfl rfl fits_of_le
  | index base position => by
    rw [measure, measure_eq base, measure_eq position, measured_max]
    refine depthAbove_measured rfl rfl fun le => ?_
    rw [fits_of_le (by omega), fits_of_le (by omega)]
    rfl
  | wildcard base => by
    rw [measure, measure_eq base]
    exact depthAbove_measured rfl rfl fits_of_le
  | call _ args => by
    rw [measure, measureAll_eq args]
    exact depthAbove_measured rfl rfl all_fits_of_le
  | not operand => by
    rw [measure, measure_eq operand]
    exact depthAbove_measured rfl rfl fits_of_le
  | binary _ left right => by
    rw [measure, measure_eq left, measure_eq right, measured_max]
    refine depthAbove_measured rfl rfl fun le => ?_
    rw [fits_of_le (by omega), fits_of_le (by omega)]
    rfl
  | hole name => @depthAbove_measured (hole name) limit true 0 rfl rfl fun _ => rfl

/-- Arguments are measured exactly if each of them respects the limit. -/
theorem measureAll_eq : (args : List Expr) →
    measureAll limit args =
      if args.all fun arg => arg.fits limit then some (depthAll args) else none
  | [] => rfl
  | arg :: rest => by
    rw [measureAll, measure_eq arg, measureAll_eq rest]
    exact (measured_max _ _ _ _ pure).trans (bind_pure _)

end

end Expr

end WorkflowExpr
