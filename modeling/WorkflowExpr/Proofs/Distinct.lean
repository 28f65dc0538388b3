import Mathlib.Data.List.Sort

/-!
# Lists without repetitions

Dropping the repetitions of a list leaves each member once. In a total order the sorted result depends on
the members alone, not on where or how often they stood. Between lists of one length partners that are given
out one by one leave no one without.
-/

namespace WorkflowExpr

/-- If each member of a list without repetitions has a partner in a list that is no longer, and no two have
the same one, then every member of that list is a partner. -/
lemma exists_partner {ι κ : Type} {R : ι → κ → Prop} {xs : List ι} {ys : List κ} (nodup : xs.Nodup)
    (length : ys.length ≤ xs.length) (unique : ∀ x ∈ xs, ∀ x' ∈ xs, ∀ y, R x y → R x' y → x = x')
    (partner : ∀ x ∈ xs, ∃ y ∈ ys, R x y) : ∀ y ∈ ys, ∃ x ∈ xs, R x y := by
  induction xs generalizing ys with
  | nil =>
    obtain rfl := List.eq_nil_of_length_eq_zero (Nat.le_zero.1 length)
    exact List.forall_mem_nil _
  | cons x xs ih =>
    obtain ⟨fresh, nodup⟩ := List.nodup_cons.1 nodup
    obtain ⟨y, mem, hy⟩ := partner x (List.mem_cons_self ..)
    obtain ⟨front, back, rfl⟩ := List.append_of_mem mem
    -- The others find their partners among the rest, since that of the first is taken.
    have others : ∀ x' ∈ xs, ∃ y' ∈ front ++ back, R x' y' := by
      intro x' mem'
      obtain ⟨y', mem, hy'⟩ := partner x' (List.mem_cons_of_mem x mem')
      rcases List.mem_append.1 mem with front' | back'
      · exact ⟨y', List.mem_append_left back front', hy'⟩
      · rcases List.mem_cons.1 back' with rfl | back'
        · obtain rfl := unique x (List.mem_cons_self ..) x' (List.mem_cons_of_mem x mem') _ hy hy'
          exact absurd mem' fresh
        · exact ⟨y', List.mem_append_right front back', hy'⟩
    have rest := ih nodup (by simp only [List.length_append, List.length_cons] at length ⊢; omega)
      (fun a ha b hb => unique a (List.mem_cons_of_mem x ha) b (List.mem_cons_of_mem x hb)) others
    intro z hz
    by_cases first : z = y
    · subst first
      exact ⟨x, List.mem_cons_self .., hy⟩
    · have mem : z ∈ front ++ back := by
        simpa [first] using hz
      obtain ⟨x', mem', hx'⟩ := rest z mem
      exact ⟨x', List.mem_cons_of_mem x mem', hx'⟩

variable {α : Type} [BEq α] [LawfulBEq α]

/-- Without repetitions every element stands once. -/
theorem nodup_eraseDups : (xs : List α) → xs.eraseDups.Nodup
  | [] => List.nodup_nil
  | x :: xs => by
    rw [List.eraseDups_cons, List.nodup_cons]
    constructor
    · simp
    · exact nodup_eraseDups _
termination_by xs => xs.length
decreasing_by exact Nat.lt_succ_of_le (List.length_filter_le ..)

/-- What is left of a list has not been taken out. -/
lemma mem_removeAll {xs ys : List α} {x : α} : x ∈ xs.removeAll ys ↔ x ∈ xs ∧ x ∉ ys := by
  simp [List.removeAll]

/-- Lists with the same elements are the same without repetitions, but for the order. -/
lemma perm_eraseDups {xs ys : List α} (same : ∀ x, x ∈ xs ↔ x ∈ ys) :
    xs.eraseDups.Perm ys.eraseDups := by
  apply (List.perm_ext_iff_of_nodup (nodup_eraseDups xs) (nodup_eraseDups ys)).2
  intro x
  rw [List.mem_eraseDups, List.mem_eraseDups, same]

/-- Two lists with the same members are the same when they are sorted and without repetitions. -/
lemma mergeSort_eraseDups_congr {le : α → α → Bool}
    (antisymm : ∀ a b, le a b = true → le b a = true → a = b)
    (trans : ∀ a b c, le a b = true → le b c = true → le a c = true)
    (total : ∀ a b, (le a b || le b a) = true) {xs ys : List α} (same : ∀ x, x ∈ xs ↔ x ∈ ys) :
    xs.eraseDups.mergeSort le = ys.eraseDups.mergeSort le := by
  have perm := (perm_eraseDups same).trans (List.mergeSort_perm ys.eraseDups le).symm
  exact List.Perm.eq_of_pairwise (fun a b _ _ => antisymm a b)
    (List.pairwise_mergeSort trans total _) (List.pairwise_mergeSort trans total _)
    ((List.mergeSort_perm _ le).trans perm)

end WorkflowExpr
