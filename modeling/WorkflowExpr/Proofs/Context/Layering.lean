import WorkflowExpr.Context.Variable
import WorkflowExpr.Proofs.Value.Key

/-!
# Layers of variables

Variables take effect scope by scope, from the widest to the narrowest, and within a scope in the order in
which they are declared. Sorting them by scope gives this order, because it keeps variables of one scope as they
stand. So the last variable of the narrowest scope prevails, and how the scopes are mixed makes no difference.
-/

namespace WorkflowExpr

namespace Variable

/-- The variables that are declared in a scope. -/
def inScope (declared : List Variable) (c : Scope) : List Variable :=
  declared.filter fun v => v.scope = c

/-- The variables in the order in which they take effect, from the widest scope to the narrowest. -/
def inEffect (declared : List Variable) : List Variable :=
  [Scope.workflow, .job, .step].flatMap (inScope declared)

/-- Whether a variable has a type and a name. -/
def isNamed (t : VariableType) (name : String) (v : Variable) : Bool :=
  v.type = t ∧ v.name = name

/-- The variable that counts for a type and a name: the last one of the narrowest scope in which there is
one. -/
def prevailing? (declared : List Variable) (t : VariableType) (name : String) : Option Variable :=
  [Scope.step, .job, .workflow].findSome? fun c => ((inScope declared c).filter (isNamed t name)).getLast?

/-- The names of a type that members lack, in the order in which variables bring them. -/
def brought (vs : List Variable) (t : VariableType) (members : List (Key × Value)) : List String :=
  (((vs.filter fun v => v.type = t).map (·.name)).filter fun name =>
    (Value.member? (.text name) members).isNone).eraseDups

section Order

section Rank

variable {α : Type} (rank : α → Nat)

/-- The order by rank is transitive. -/
lemma rank_trans (a b c : α) :
    decide (rank a ≤ rank b) = true → decide (rank b ≤ rank c) = true → decide (rank a ≤ rank c) = true := by
  simpa only [decide_eq_true_eq] using Nat.le_trans

/-- Any two elements are in order by rank, one way or the other. -/
lemma rank_total (a b : α) : (decide (rank a ≤ rank b) || decide (rank b ≤ rank a)) = true := by
  simpa only [Bool.or_eq_true, decide_eq_true_eq] using Nat.le_total (rank a) (rank b)

/-- A sort by rank keeps elements of one rank in their order. -/
lemma filter_mergeSort {p : α → Bool} (alike : ∀ a b, p a = true → p b = true → rank a = rank b)
    (xs : List α) : (xs.mergeSort fun a b => rank a ≤ rank b).filter p = xs.filter p := by
  have sorted : (xs.filter p).Pairwise fun a b => decide (rank a ≤ rank b) = true := by
    rw [List.pairwise_iff_forall_sublist]
    intro a b sub
    have pa := (List.mem_filter.1 (sub.subset (List.mem_cons_self ..))).2
    have pb := (List.mem_filter.1 (sub.subset (List.mem_cons_of_mem _ (List.mem_cons_self ..)))).2
    exact decide_eq_true (Nat.le_of_eq (alike a b pa pb))
  have sub := (List.sublist_mergeSort (rank_trans rank) (rank_total rank) sorted List.filter_sublist).filter p
  simp only [List.filter_filter, Bool.and_self] at sub
  exact (sub.eq_of_length ((List.mergeSort_perm xs _).filter p).length_eq.symm).symm

end Rank

variable {declared : List Variable}

/-- The variables in effect are those of the workflow, then those of the job, then those of the step. -/
lemma inEffect_eq (declared : List Variable) :
    inEffect declared =
      inScope declared .workflow ++ (inScope declared .job ++ inScope declared .step) := by
  simp only [inEffect, List.flatMap_cons, List.flatMap_nil, List.append_nil]

/-- A variable in front is declared in its own scope and in no other one. -/
lemma inScope_cons (v : Variable) (vs : List Variable) (c : Scope) :
    inScope (v :: vs) c = if v.scope = c then v :: inScope vs c else inScope vs c := by
  rw [inScope, List.filter_cons]
  simp only [decide_eq_true_eq, inScope]

/-- A scope that is wider than all that is declared has no variables. -/
lemma inScope_eq_nil {c : Scope} (narrower : ∀ v ∈ declared, c.rank < v.scope.rank) :
    inScope declared c = [] := by
  rw [inScope, List.filter_eq_nil_iff]
  intro v mem scope
  exact Nat.ne_of_lt (narrower v mem) (congrArg Scope.rank (of_decide_eq_true scope)).symm

/-- Variables whose scopes are in order take effect in the order in which they stand. -/
lemma inEffect_of_sorted (sorted : declared.Pairwise fun v w => v.scope.rank ≤ w.scope.rank) :
    inEffect declared = declared := by
  induction sorted with
  | nil => rfl
  | @cons v vs narrower sorted ih =>
    -- Nothing that follows is declared in a wider scope than the first variable.
    have none (c : Scope) (wider : c.rank < v.scope.rank) : inScope vs c = [] :=
      inScope_eq_nil fun w mem => Nat.lt_of_lt_of_le wider (narrower w mem)
    rw [inEffect_eq] at ih ⊢
    simp only [inScope_cons]
    cases scope : v.scope with
    | workflow => exact congrArg (v :: ·) ih
    | job =>
      rw [none .workflow (by rw [scope]; decide)] at ih ⊢
      exact congrArg (v :: ·) ih
    | step =>
      rw [none .workflow (by rw [scope]; decide), none .job (by rw [scope]; decide)] at ih ⊢
      exact congrArg (v :: ·) ih

/-- Declarations in the order of their scopes are the variables in effect. -/
lemma mergeSort_scope (declared : List Variable) :
    (declared.mergeSort fun v w => v.scope.rank ≤ w.scope.rank) = inEffect declared := by
  let rank (v : Variable) : Nat := v.scope.rank
  have sorted := List.pairwise_mergeSort (rank_trans rank) (rank_total rank) declared
  have same (c : Scope) : inScope (declared.mergeSort fun v w => rank v ≤ rank w) c = inScope declared c := by
    refine filter_mergeSort rank (fun v w hv hw => congrArg Scope.rank ?_) declared
    exact (of_decide_eq_true hv).trans (of_decide_eq_true hw).symm
  rw [← inEffect_of_sorted (sorted.imp of_decide_eq_true), inEffect_eq, inEffect_eq, same, same, same]

/-- A snapshot takes up the variables in effect one after the other. -/
lemma withVariables_eq (s : Snapshot) (declared : List Variable) :
    s.withVariables declared = (inEffect declared).foldl Snapshot.withVariable s := by
  rw [Snapshot.withVariables, mergeSort_scope]

end Order

end Variable

/-- Each type of variable has its own root. -/
lemma VariableType.root_inj {t u : VariableType} : t.root = u.root ↔ t = u := by
  cases t <;> cases u <;> decide

section Run

/-- What one variable does to what a type holds. -/
lemma members_withVariable (s : Snapshot) (v : Variable) (t : VariableType) :
    (s.withVariable v).members t.root =
      if v.type = t then Value.insert (.text v.name) v.value (s.members t.root)
      else s.members t.root := by
  rw [Snapshot.withVariable, Snapshot.withRoot]
  simp only [VariableType.root_inj]
  by_cases same : v.type = t
  · subst same
    simp only [if_true]
  · rw [if_neg (Ne.symm same), if_neg same]

/-- One variable sets the member of its name under the root of its type, and no other member. -/
lemma member_withVariable (s : Snapshot) (v : Variable) (t : VariableType) (name : String) :
    Value.member? (.text name) ((s.withVariable v).members t.root) =
      if Variable.isNamed t name v then some v.value
      else Value.member? (.text name) (s.members t.root) := by
  rw [members_withVariable, Variable.isNamed]
  by_cases type : v.type = t
  · rw [if_pos type, Value.member_insert]
    simp only [type, true_and, Key.same_text_iff, decide_eq_true_eq]
  · simp only [type, false_and, decide_false, Bool.false_eq_true, if_false]

/-- After a run of variables the last one of a name counts. -/
lemma member_run (s : Snapshot) (vs : List Variable) (t : VariableType) (name : String) :
    Value.member? (.text name) ((vs.foldl Snapshot.withVariable s).members t.root) =
      ((vs.filter (Variable.isNamed t name)).getLast?.map (·.value)).or
        (Value.member? (.text name) (s.members t.root)) := by
  induction vs generalizing s with
  | nil => rfl
  | cons v vs ih =>
    rw [List.foldl_cons, ih, member_withVariable, List.filter_cons]
    split
    · rw [List.getLast?_cons]
      cases (vs.filter (Variable.isNamed t name)).getLast? with
      | none => rfl
      | some => rfl
    · rfl

/-- A variable brings its name if the members lack it, and what follows brings what they lack then. -/
lemma brought_cons {v : Variable} {t : VariableType} (type : v.type = t) (vs : List Variable)
    (members : List (Key × Value)) :
    Variable.brought (v :: vs) t members =
      (if (Value.member? (.text v.name) members).isNone then [v.name] else []) ++
        Variable.brought vs t (Value.insert (.text v.name) v.value members) := by
  have lacks (name : String) :
      (Value.member? (.text name) (Value.insert (.text v.name) v.value members)).isNone =
        (!(name == v.name) && (Value.member? (.text name) members).isNone) := by
    rw [Value.member_insert]
    simp only [Key.same_text_iff]
    by_cases same : v.name = name
    · simp [same]
    · simp [same, Ne.symm same]
  simp only [Variable.brought, lacks, List.filter_cons, type, decide_true, if_true, List.map_cons]
  cases known : Value.member? (.text v.name) members with
  | none =>
    rw [Option.isNone_none, if_pos rfl, if_pos rfl, List.eraseDups_cons, List.filter_filter]
    rfl
  | some value =>
    -- A name that is known is dropped by the second condition already.
    rw [Option.isNone_some, if_neg Bool.false_ne_true, if_neg Bool.false_ne_true]
    refine congrArg List.eraseDups (List.filter_congr fun name _ => ?_)
    by_cases same : name = v.name
    · rw [same, known, Option.isNone_some, Bool.and_false]
    · simp [same]

/-- A run of variables keeps the keys in their order and puts the names that are new behind them. -/
lemma keys_run (s : Snapshot) (vs : List Variable) (t : VariableType) :
    ((vs.foldl Snapshot.withVariable s).members t.root).map Prod.fst =
      (s.members t.root).map Prod.fst ++ (Variable.brought vs t (s.members t.root)).map .text := by
  induction vs generalizing s with
  | nil => exact (List.append_nil _).symm
  | cons v vs ih =>
    rw [List.foldl_cons, ih, members_withVariable]
    by_cases type : v.type = t
    · rw [if_pos type, Value.keys_insert, brought_cons type, List.append_assoc, List.map_append,
        apply_ite (List.map Key.text)]
      rfl
    · rw [if_neg type, Variable.brought, Variable.brought, List.filter_cons_of_neg]
      simpa only [decide_eq_true_eq] using type

/-- A run of variables leaves alone what is no type of variables. -/
lemma members_run (s : Snapshot) (vs : List Variable) {r : Root} (other : ∀ t : VariableType, t.root ≠ r) :
    (vs.foldl Snapshot.withVariable s).members r = s.members r := by
  induction vs generalizing s with
  | nil => rfl
  | cons v vs ih =>
    rw [List.foldl_cons, ih, Snapshot.withVariable, Snapshot.withRoot]
    exact if_neg (Ne.symm (other v.type))

/-- Of the variables in effect the last one of a name is the one that prevails. -/
lemma getLast_inEffect (declared : List Variable) (t : VariableType) (name : String) :
    ((Variable.inEffect declared).filter (Variable.isNamed t name)).getLast? =
      Variable.prevailing? declared t name := by
  rw [Variable.inEffect_eq, List.filter_append, List.filter_append, List.getLast?_append,
    List.getLast?_append]
  simp only [Variable.prevailing?, List.findSome?_cons, List.findSome?_nil]
  cases ((Variable.inScope declared .step).filter (Variable.isNamed t name)).getLast? with
  | some => rfl
  | none =>
    cases ((Variable.inScope declared .job).filter (Variable.isNamed t name)).getLast? with
    | some => rfl
    | none =>
      cases ((Variable.inScope declared .workflow).filter (Variable.isNamed t name)).getLast? with
      | some => rfl
      | none => rfl

end Run

/-- Under each type a name holds the value of the variable that prevails, or what it held before where none
is declared. The keys that were there keep their order, and those that are new stand behind them in the
order in which they take effect. All other roots stay as they are. Lists that declare the same variables in
each scope, in the same order, come to the same snapshot. -/
theorem Snapshot.withVariables_layers (s : Snapshot) (declared : List Variable) :
    (∀ (t : VariableType) (name : String),
      Value.member? (.text name) ((s.withVariables declared).members t.root) =
        ((Variable.prevailing? declared t name).map (·.value)).or
          (Value.member? (.text name) (s.members t.root))) ∧
    (∀ t : VariableType, ((s.withVariables declared).members t.root).map Prod.fst =
      (s.members t.root).map Prod.fst ++
        (Variable.brought (Variable.inEffect declared) t (s.members t.root)).map .text) ∧
    (∀ r ∈ [Root.github, .runner, .matrix, .needs, .strategy],
      (s.withVariables declared).members r = s.members r) ∧
    ∀ others, (∀ c, Variable.inScope others c = Variable.inScope declared c) →
      s.withVariables others = s.withVariables declared := by
  rw [Variable.withVariables_eq]
  refine ⟨fun t name => ?_, fun t => keys_run s _ t, fun r hr => members_run s _ fun t => ?_,
    fun others same => ?_⟩
  · rw [member_run, getLast_inEffect]
  · rintro rfl
    cases t <;> simp [VariableType.root] at hr
  · rw [Variable.withVariables_eq, Variable.inEffect_eq, Variable.inEffect_eq, same, same, same]

/-- A variable of a job counts for more than one of the workflow, wherever the latter is declared. -/
theorem Snapshot.withVariables_layers_mixed :
    let s := empty.withRoot .env [(.text "A", .string "base")]
    let job : Variable := ⟨"B", .string "job", .env, .job⟩
    let workflow : Variable := ⟨"B", .string "workflow", .env, .workflow⟩
    let step : Variable := ⟨"A", .string "step", .env, .step⟩
    (∀ c, Variable.inScope [step, workflow, job] c = Variable.inScope [job, workflow, step] c) ∧
      s.withVariables [step, workflow, job] = s.withVariables [job, workflow, step] := by
  intro s job workflow step
  have same (c : Scope) :
      Variable.inScope [step, workflow, job] c = Variable.inScope [job, workflow, step] c := by
    cases c with
    | _ => rfl
  exact ⟨same, (withVariables_layers s [job, workflow, step]).2.2.2 _ same⟩

end WorkflowExpr
