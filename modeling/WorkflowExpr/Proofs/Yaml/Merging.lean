import WorkflowExpr.Proofs.Yaml.Misfit
import WorkflowExpr.Yaml.Merge

/-!
# What merging leaves as it is

While mappings are merged, nodes are changed in place: a mapping gets other pairs, and a key that stands for
its mapping becomes a text. Nothing else changes, and nothing goes wrong but that the document turns out to
be malformed.
-/

namespace WorkflowExpr.Yaml

/-- The tags that a tag may become. -/
inductive Tag.Becomes : Tag → Tag → Prop where
  | same {t} :
    Becomes t t
  | text :
    Becomes .default .string

/-- The tag of a node of a document merges exactly if it did before. -/
lemma Tag.Becomes.eq_merge {t : Tag} (h : t.Becomes .merge) : t = .merge := by
  cases h with
  | same => rfl

/-- A tag becomes one of a collection only if it is one. -/
lemma Tag.Becomes.isCollection {t t' : Tag} (h : t.Becomes t') : t.isCollection = t'.isCollection := by
  cases h with
  | same => rfl
  | text => rfl

/-- The nodes that a node may become. A mapping keeps its pairs but those with certain keys. -/
inductive Node.Becomes (merges : Nat → Prop) : Node → Node → Prop where
  | scalar {t t' text} :
    t.Becomes t' →
    Becomes merges (.scalar t text) (.scalar t' text)
  | sequence {t t' items} :
    t.Becomes t' →
    Becomes merges (.sequence t items) (.sequence t' items)
  | mapping {t t' pairs pairs'} :
    t.Becomes t' →
    (∀ pair ∈ pairs, ¬ merges pair.1 → pair ∈ pairs') →
    Becomes merges (.mapping t pairs) (.mapping t' pairs')

namespace Node.Becomes

variable {merges : Nat → Prop} {m n : Node}

/-- Every node may stay as it is. -/
lemma refl (n : Node) : n.Becomes merges n := by
  cases n with
  | scalar => exact .scalar .same
  | sequence => exact .sequence .same
  | mapping => exact .mapping .same fun _ hp _ => hp

/-- The tag of a node may become the tag of what it becomes. -/
lemma tag (h : m.Becomes merges n) : m.tag.Becomes n.tag := by
  cases h with
  | scalar h => exact h
  | sequence h => exact h
  | mapping h => exact h

/-- What becomes a scalar is a scalar with the same text. -/
lemma scalar_inv {t : Tag} {text : String} (h : m.Becomes merges (.scalar t text)) :
    ∃ u, m = .scalar u text ∧ u.Becomes t := by
  cases h with
  | scalar h => exact ⟨_, rfl, h⟩

/-- What becomes a sequence is a sequence with the same items. -/
lemma sequence_inv {t : Tag} {items : List Nat} (h : m.Becomes merges (.sequence t items)) :
    ∃ u, m = .sequence u items ∧ u.Becomes t := by
  cases h with
  | sequence h => exact ⟨_, rfl, h⟩

/-- What becomes a mapping is a mapping. -/
lemma mapping_inv {t : Tag} {pairs : List (Nat × Nat)} (h : m.Becomes merges (.mapping t pairs)) :
    ∃ u others, m = .mapping u others ∧ u.Becomes t := by
  cases h with
  | mapping h => exact ⟨_, _, rfl, h⟩

/-- A key that stands for its mapping may become a text. -/
lemma asText (h : m.Becomes merges n) (default : n.tag = .default) :
    m.Becomes merges (n.withTag .string) := by
  have text {t t' : Tag} (h : t.Becomes t') (default : t' = .default) : t.Becomes .string := by
    subst default
    cases h with
    | same => exact .text
  cases h with
  | scalar h => exact .scalar (text h default)
  | sequence h => exact .sequence (text h default)
  | mapping h kept => exact .mapping (text h default) kept

end Node.Becomes

/-- After a place of an array is set, it holds what was set, and all other places hold what they did. -/
lemma getD_setIfInBounds {α : Type} (xs : Array α) (i : Nat) (x d : α) (j : Nat) :
    (xs.setIfInBounds i x).getD j d = if j = i ∧ i < xs.size then x else xs.getD j d := by
  rw [Array.getD_eq_getD_getElem?, Array.getD_eq_getD_getElem?, Array.getElem?_setIfInBounds]
  by_cases here : j = i
  · subst here
    by_cases within : j < xs.size
    · simp [within]
    · simp [within]
  · simp [here, Ne.symm here]

namespace Nodes

/-- Each node may become the one with its number, with no pair lost but those with merge keys. -/
def Becomes (before nodes : Nodes) : Prop :=
  ∀ number, (before.node number).Becomes (fun key => before.tag key = .merge) (nodes.node number)

/-- The node with the number is a mapping. -/
def IsMapping (nodes : Nodes) (number : Nat) : Prop :=
  ∃ t pairs, nodes.node number = .mapping t pairs

/-- The pairs of a mapping are those that it lists. -/
lemma pairs_mapping {nodes : Nodes} {number : Nat} {t : Tag} {pairs : List (Nat × Nat)}
    (h : nodes.node number = .mapping t pairs) : nodes.pairs number = pairs := by
  unfold Nodes.pairs
  rw [h]

/-- Taking a merge key away takes no other key away. -/
lemma takeMerge_kept {nodes : Nodes} {pairs others : List (Nat × Nat)} {value : Nat}
    (h : nodes.takeMerge? pairs = some (value, others)) :
    ∀ pair ∈ pairs, nodes.tag pair.1 ≠ .merge → pair ∈ others := by
  induction pairs generalizing others with
  | nil => cases h
  | cons first pairs ih =>
    unfold Nodes.takeMerge? at h
    intro pair hp other
    split at h
    · next merge =>
      cases h
      rcases List.mem_cons.1 hp with rfl | hp
      · exact absurd merge other
      · exact hp
    · obtain ⟨⟨_, rest⟩, hr, ⟨⟩⟩ := Option.map_eq_some_iff.1 h
      rcases List.mem_cons.1 hp with rfl | hp
      · exact List.mem_cons_self ..
      · exact List.mem_cons_of_mem _ (ih hr pair hp other)

namespace Becomes

variable {R : Misfit → Prop} {before nodes : Nodes} {number : Nat}

/-- Nodes may stay as they are. -/
lemma refl (nodes : Nodes) : nodes.Becomes nodes := fun _ =>
  .refl _

/-- One node may be set to what it may become. -/
lemma set (h : before.Becomes nodes) {n : Node}
    (hn : (before.node number).Becomes (fun key => before.tag key = .merge) n) :
    before.Becomes (nodes.setIfInBounds number n) := by
  intro other
  rw [node, node, getD_setIfInBounds]
  split
  · next here =>
    rw [here.1]
    exact hn
  · exact h other

/-- What is a mapping now was one before. -/
lemma isMapping (h : before.Becomes nodes) {t : Tag} {pairs : List (Nat × Nat)}
    (mapping : nodes.node number = .mapping t pairs) : before.IsMapping number := by
  obtain ⟨u, others, hn, -⟩ := (mapping ▸ h number).mapping_inv
  exact ⟨u, others, hn⟩

/-- A tag may become the one that there is now. -/
lemma tag (h : before.Becomes nodes) (number : Nat) :
    (before.tag number).Becomes (nodes.tag number) :=
  (h number).tag

/-- What was no merge key has not become one. -/
lemma ne_merge (h : before.Becomes nodes) (other : before.tag number ≠ .merge) :
    nodes.tag number ≠ .merge := by
  intro merge
  exact other (merge ▸ h.tag number).eq_merge

/-- The pairs without a merge key are kept. -/
lemma kept (h : before.Becomes nodes) :
    ∀ pair ∈ before.pairs number, before.tag pair.1 ≠ .merge → pair ∈ nodes.pairs number := by
  intro pair hp other
  have becomes := h number
  unfold Nodes.pairs at hp ⊢
  generalize nodes.node number = n at becomes ⊢
  split at hp
  · next mapping =>
    rw [mapping] at becomes
    cases becomes with
    | mapping _ kept => exact kept pair hp other
  · cases hp

/-- The pairs of a mapping may be replaced if only merge keys are lost. -/
lemma withPairs (h : before.Becomes nodes) (hn : before.IsMapping number) {pairs : List (Nat × Nat)}
    (kept : ∀ pair ∈ before.pairs number, before.tag pair.1 ≠ .merge → pair ∈ pairs) :
    before.Becomes (nodes.withPairs number pairs) := by
  apply h.set
  obtain ⟨t, others, mapping⟩ := hn
  rw [pairs_mapping mapping] at kept
  have tag := (h number).tag
  rw [mapping] at tag ⊢
  exact .mapping tag kept

/-- A mapping may be closed with the pairs that were merged into it. -/
lemma close (h : before.Becomes nodes) (hn : before.IsMapping number) (merged : List (Nat × Nat)) :
    before.Becomes (nodes.close number merged) := by
  have texts (own : List (Nat × Nat)) : before.Becomes (own.foldl
      (fun (nodes : Nodes) pair =>
        if nodes.tag pair.1 = .default then
          nodes.setIfInBounds pair.1 ((nodes.node pair.1).withTag .string)
        else nodes)
      nodes) := by
    induction own generalizing nodes with
    | nil => exact h
    | cons pair own ih =>
      rw [List.foldl_cons]
      apply ih
      split
      · next default => exact h.set ((h pair.1).asText default)
      · exact h
  unfold Nodes.close
  dsimp only
  split
  · exact texts _
  · apply (texts _).withPairs hn
    intro pair hp other
    exact List.mem_append_right _ (h.kept pair hp other)

/-- By induction on the merge keys that are left. -/
lemma flatten (h : before.Becomes nodes) (hn : before.IsMapping number) (fuel : Nat)
    (merged : List (Nat × Nat)) :
    Yields before.Becomes (Fault.Of R) (flatten fuel number merged nodes) := by
  induction fuel generalizing nodes number merged with
  | zero => exact .ok (h.close hn merged)
  | succ fuel ih =>
    unfold Nodes.flatten
    split
    · exact .ok (h.close hn merged)
    · next value others taken =>
      have h : before.Becomes (nodes.withPairs number others) := by
        apply h.withPairs hn
        intro pair hp other
        exact takeMerge_kept taken pair (h.kept pair hp other) (h.ne_merge other)
      dsimp only
      split
      · next mapping =>
        apply (ih h (h.isMapping mapping) []).bind
        intro _ h
        exact ih h hn _
      · apply Yields.bind (Q := fun (state : Nodes × List (List (Nat × Nat))) => before.Becomes state.1)
        · apply Yields.foldlM
          · rintro ⟨nodes, lists⟩ h item _
            dsimp only
            split
            · next mapping =>
              apply (ih h (h.isMapping mapping) []).bind
              intro _ h
              exact .ok h
            · exact .error .malformed
          · exact h
        · intro _ h
          exact ih h hn _
      · exact .error .malformed

end Becomes

/-- Merging leaves nodes that the nodes before may become. -/
theorem Becomes.flattened {R : Misfit → Prop} {before nodes : Nodes} {number : Nat}
    (h : before.Becomes nodes) (hn : before.IsMapping number) :
    Yields before.Becomes (Fault.Of R) (nodes.flattened number) := by
  unfold Nodes.flattened
  split
  · exact h.flatten hn _ _
  · exact .ok (h.close hn _)

end Nodes

end WorkflowExpr.Yaml
