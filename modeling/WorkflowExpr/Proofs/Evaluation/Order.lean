import WorkflowExpr.Evaluation.Resolve
import WorkflowExpr.Proofs.Number.Rank
import WorkflowExpr.Proofs.Value.Equality

/-!
# Comparisons of order

Every value of the language either is rejected by all four comparisons of order or stands at a place on the
line of numbers, and two values that stand on it compare as their places do. Loose equality with a number
on the left agrees with that, whatever scalar other than null is on the right.
-/

namespace WorkflowExpr

/-- An error of type, and no limit of the host. -/
def Failure.IsTypeError (f : Failure) : Prop :=
  f.kind = .type ∧ ∀ limit, f ≠ .beyond limit

/-- The values without order: arrays, objects, and scalars that stand for no number. -/
inductive Value.Rejected : Value → Prop where
  | array {items} :
    Rejected (.array items)
  | object {members} :
    Rejected (.object members)
  | notNumber {v} :
    v.toNumber = .ok .nan →
    Rejected v

/-- The scalar stands for the number at that place. -/
def Value.StandsAt (v : Value) (i : Int) : Prop :=
  ∃ x, v.toNumber = .ok x ∧ x.rank? = some i

/-- Of three questions, all of which are answered, one alone is answered with yes. -/
inductive ExactlyOne : Except Failure Bool → Except Failure Bool → Except Failure Bool → Prop where
  | first :
    ExactlyOne (.ok true) (.ok false) (.ok false)
  | second :
    ExactlyOne (.ok false) (.ok true) (.ok false)
  | third :
    ExactlyOne (.ok false) (.ok false) (.ok true)

/-- Whether two places on the line of numbers are in that relation. -/
def Relation.between (r : Relation) (i j : Int) : Bool :=
  match r with
  | less => i < j
  | atMost => i ≤ j
  | greater => j < i
  | atLeast => j ≤ i

/-- One number is at most another one if it is not greater. -/
lemma Relation.between_atMost (i j : Int) : atMost.between i j = !greater.between i j :=
  (decide_eq_decide.2 Int.not_lt.symm).trans decide_not

/-- One number is at least another one if it is not less. -/
lemma Relation.between_atLeast (i j : Int) : atLeast.between i j = !less.between i j :=
  (decide_eq_decide.2 Int.not_lt.symm).trans decide_not

section Sides

variable {v : Value} {x : Double} {i : Int} {r : Relation}

/-- A scalar is compared as its number, and refused with its JSON text if it stands for none. -/
lemma orderNumber_scalar (hv : v.InModel) (number : v.toNumber = .ok x) :
    orderNumber r v =
      if x.isNaN then v.toJsonText >>= fun text => .error (.notComparable text r) else .ok x := by
  cases hv with
  | array => cases number
  | object => cases number
  | _ =>
    cases number
    rfl

/-- A scalar that stands somewhere on the line of numbers is compared as its number. -/
lemma orderNumber_standsAt (hv : v.InModel) (number : v.toNumber = .ok x) (rank : x.rank? = some i) :
    orderNumber r v = .ok x := by
  rw [orderNumber_scalar hv number, Double.isNaN_of_rank rank]
  rfl

/-- What stands for no number can always be shown in the message. -/
lemma orderNumber_rejected (hv : v.InModel) (rejected : v.Rejected) :
    ∃ f, orderNumber r v = .error f ∧ f.IsTypeError := by
  cases rejected with
  | array => exact ⟨_, rfl, rfl, nofun⟩
  | object => exact ⟨_, rfl, rfl, nofun⟩
  | notNumber number =>
    obtain ⟨text, shown⟩ : ∃ text, v.toJsonText = .ok text := by
      cases hv with
      | array => cases number
      | object => cases number
      | _ => exact ⟨_, rfl⟩
    rw [orderNumber_scalar hv number, shown]
    exact ⟨_, rfl, rfl, nofun⟩

/-- Each value in the model is rejected or stands somewhere on the line of numbers. -/
lemma Value.InModel.rejected_or_standsAt (hv : v.InModel) : v.Rejected ∨ ∃ i, v.StandsAt i := by
  have scalar {x : Double} (number : v.toNumber = .ok x) : v.Rejected ∨ ∃ i, v.StandsAt i := by
    cases hx : x.isNaN with
    | true =>
      cases x with
      | nan => exact .inl (.notNumber number)
      | signed => cases hx
    | false =>
      obtain ⟨i, rank⟩ := Double.exists_rank hx
      exact .inr ⟨i, x, number, rank⟩
  cases hv with
  | array => exact .inl .array
  | object => exact .inl .object
  | _ => exact scalar rfl

/-- A scalar that stands for a number is not rejected. -/
lemma Value.not_rejected (number : v.toNumber = .ok x) (h : x.isNaN = false) : ¬ v.Rejected := by
  intro rejected
  cases rejected with
  | array => cases number
  | object => cases number
  | notNumber nan =>
    cases number.symm.trans nan
    cases h

/-- What stands on the line of numbers is not rejected. -/
lemma Value.StandsAt.not_rejected (h : v.StandsAt i) : ¬ v.Rejected := by
  obtain ⟨x, number, rank⟩ := h
  exact Value.not_rejected number (Double.isNaN_of_rank rank)

end Sides

section Comparisons

variable {a b : Value} {x y : Double} {i j : Int}

/-- A relation holds between numbers when it does between their places. -/
lemma Relation.holds_rank (r : Relation) (hx : x.rank? = some i) (hy : y.rank? = some j) :
    r.holds x y = r.between i j := by
  cases r with
  | less => exact Double.less_rank hx hy
  | atMost => exact Double.atMost_rank hx hy
  | greater => exact Double.less_rank hy hx
  | atLeast => exact Double.atMost_rank hy hx

/-- Values compare as their places do. -/
theorem compareOrder_standsAt (r : Relation) (ha : a.InModel) (hb : b.InModel) (left : a.StandsAt i)
    (right : b.StandsAt j) : compareOrder r a b = .ok (r.between i j) := by
  obtain ⟨x, number, hx⟩ := left
  obtain ⟨y, number', hy⟩ := right
  rw [compareOrder, orderNumber_standsAt ha number hx, orderNumber_standsAt hb number' hy,
    ← r.holds_rank hx hy]
  rfl

/-- A comparison of order fails, with an error of type, exactly if one of its sides is rejected. -/
theorem compareOrder_error_iff (r : Relation) (ha : a.InModel) (hb : b.InModel) :
    (∃ f, compareOrder r a b = .error f ∧ f.IsTypeError) ↔ a.Rejected ∨ b.Rejected := by
  rcases ha.rejected_or_standsAt with left | ⟨i, left⟩
  · obtain ⟨f, failed, type⟩ := orderNumber_rejected ha left
    refine iff_of_true ⟨f, ?_, type⟩ (.inl left)
    rw [compareOrder, failed]
    rfl
  rcases hb.rejected_or_standsAt with right | ⟨j, right⟩
  · obtain ⟨x, number, hx⟩ := left
    obtain ⟨f, failed, type⟩ := orderNumber_rejected hb right
    refine iff_of_true ⟨f, ?_, type⟩ (.inr right)
    rw [compareOrder, orderNumber_standsAt ha number hx, failed]
    rfl
  · refine iff_of_false ?_ (not_or.2 ⟨left.not_rejected, right.not_rejected⟩)
    rw [compareOrder_standsAt r ha hb left right]
    exact nofun

/-- A number is equal to what stands at its place. -/
theorem looseEquals_standsAt (ha : a.InModel) (hb : b.InModel) (number : a.isNumber = true)
    (ne : b ≠ .null) (left : a.StandsAt i) (right : b.StandsAt j) :
    a.looseEquals b = .ok (decide (i = j)) := by
  have atom : a.isAtom = true := by
    cases a with
    | integer => rfl
    | real => rfl
    | _ => cases number
  have atom' : b.isAtom = true := by
    cases hb with
    | null => exact absurd rfl ne
    | array => exact absurd .array right.not_rejected
    | object => exact absurd .object right.not_rejected
    | _ => rfl
  obtain ⟨x, hx, rank⟩ := left
  obtain ⟨y, hy, rank'⟩ := right
  obtain ⟨s, hs⟩ := ha.exists_text atom
  obtain ⟨t, ht⟩ := hb.exists_text atom'
  rw [Value.looseEquals_scalar ha atom hb atom', Value.scalarEquals_eq hx hy hs ht, number,
    ← Double.equals_rank rank rank']
  rfl

end Comparisons

/-- Comparisons of order fail on what is rejected alone, with an error of type, and form a total preorder
on the rest. Between a number and a value that is not null exactly one of less, equal and greater holds. -/
theorem compareOrder_laws {a b c : Value} (ha : a.InModel) (hb : b.InModel) (hc : c.InModel) :
    (∀ r, (∃ f, compareOrder r a b = .error f ∧ f.IsTypeError) ↔ a.Rejected ∨ b.Rejected) ∧
      (¬ a.Rejected → ¬ b.Rejected →
        (∃ t, compareOrder .greater a b = .ok t ∧ compareOrder .atMost a b = .ok !t) ∧
        (∃ t, compareOrder .less a b = .ok t ∧ compareOrder .atLeast a b = .ok !t) ∧
        compareOrder .less a b = compareOrder .greater b a ∧
        (compareOrder .atMost a b = .ok true ∨ compareOrder .atMost b a = .ok true) ∧
        (¬ c.Rejected → compareOrder .atMost a b = .ok true → compareOrder .atMost b c = .ok true →
          compareOrder .atMost a c = .ok true) ∧
        (a.isNumber = true → b ≠ .null →
          ExactlyOne (compareOrder .less a b) (a.looseEquals b) (compareOrder .greater a b))) := by
  refine ⟨fun r => compareOrder_error_iff r ha hb, fun left right => ?_⟩
  -- A value that is not rejected has a place on one line, and values compare as their places do.
  obtain ⟨i, left⟩ := ha.rejected_or_standsAt.resolve_left left
  obtain ⟨j, right⟩ := hb.rejected_or_standsAt.resolve_left right
  have here (r : Relation) := compareOrder_standsAt r ha hb left right
  have turned (r : Relation) := compareOrder_standsAt r hb ha right left
  rw [here, here, here, here, turned, turned]
  refine ⟨⟨_, rfl, congrArg Except.ok (Relation.between_atMost i j)⟩,
    ⟨_, rfl, congrArg Except.ok (Relation.between_atLeast i j)⟩, rfl, ?_, ?_, ?_⟩
  · exact (Int.le_total i j).imp (fun le => congrArg Except.ok (decide_eq_true le))
      fun le => congrArg Except.ok (decide_eq_true le)
  · intro last first second
    obtain ⟨k, last⟩ := hc.rejected_or_standsAt.resolve_left last
    rw [compareOrder_standsAt _ hb hc right last] at second
    rw [compareOrder_standsAt _ ha hc left last]
    have le : i ≤ j := of_decide_eq_true (Except.ok.inj first)
    have le' : j ≤ k := of_decide_eq_true (Except.ok.inj second)
    exact congrArg Except.ok (decide_eq_true (le.trans le'))
  · intro number ne
    rw [looseEquals_standsAt ha hb number ne left right, Relation.between, Relation.between]
    rcases lt_trichotomy i j with lt | eq | gt
    · rw [decide_eq_true lt, decide_eq_false lt.ne, decide_eq_false lt.not_gt]
      exact .first
    · rw [decide_eq_true eq, decide_eq_false eq.not_lt, decide_eq_false eq.not_gt]
      exact .second
    · rw [decide_eq_true gt, decide_eq_false gt.ne', decide_eq_false gt.not_gt]
      exact .third

/-- A text with a hexadecimal number is compared with integers as that number. -/
theorem compareOrder_laws_hexadecimal :
    let a : Value := .integer 16
    let b : Value := .string " 0x10 "
    let c : Value := .boolean true
    a.InModel ∧ b.InModel ∧ c.InModel ∧ ¬ a.Rejected ∧ ¬ b.Rejected ∧ ¬ c.Rejected ∧
      (∃ t, compareOrder .greater a b = .ok t ∧ compareOrder .atMost a b = .ok !t) ∧
      (compareOrder .atMost a b = .ok true ∨ compareOrder .atMost b a = .ok true) ∧
      (compareOrder .atMost a b = .ok true → compareOrder .atMost b c = .ok true →
        compareOrder .atMost a c = .ok true) ∧
      ExactlyOne (compareOrder .less a b) (a.looseEquals b) (compareOrder .greater a b) := by
  intro a b c
  have ha : ¬ a.Rejected := Value.not_rejected rfl rfl
  have hb : ¬ b.Rejected := Value.not_rejected rfl rfl
  have hc : ¬ c.Rejected := Value.not_rejected rfl rfl
  obtain ⟨-, laws⟩ := compareOrder_laws (a := a) (b := b) (c := c) .integer .string .boolean
  obtain ⟨negated, -, -, total, transitive, one⟩ := laws ha hb
  exact ⟨.integer, .string, .boolean, ha, hb, hc, negated, total, transitive hc, one rfl nofun⟩

end WorkflowExpr
