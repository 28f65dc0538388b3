import WorkflowExpr.Proofs.Yaml.Merging
import WorkflowExpr.Yaml.Content

/-!
# Misfits of nodes

A node that is no collection has a misfit when its text does not fit its tag. Merging neither adds nor takes
away any, for it changes no text and no tag but that of a key that stands for its mapping.
-/

namespace WorkflowExpr.Yaml

/-- A fault of one kind is one of every weaker kind. -/
lemma Fault.Of.mono {R S : Misfit → Prop} {fault : Fault} (h : Fault.Of R fault)
    (weaker : ∀ cause, R cause → S cause) : Fault.Of S fault := by
  cases h with
  | malformed => exact .malformed
  | misfit h => exact .misfit (weaker _ h)

namespace Nodes

/-- The node with a number has a misfit. A mapping may have a tag of scalars and then takes the text of a
scalar in it, if its default keys lead to one. -/
inductive MisfitAt (nodes : Nodes) (number : Nat) : Misfit → Prop where
  | scalar {t text cause} :
    nodes.node number = .scalar t text →
    Yaml.scalarKey (number + 1) t text = .error (.misfit cause) →
    MisfitAt nodes number cause
  | mapping {t pairs other u text cause} :
    nodes.node number = .mapping t pairs →
    nodes.node other = .scalar u text →
    Yaml.scalarKey (number + 1) t text = .error (.misfit cause) →
    MisfitAt nodes number cause
  | notText {pairs} :
    nodes.node number = .mapping .timestamp pairs →
    MisfitAt nodes number .notText
  | endless {t pairs} :
    nodes.node number = .mapping t pairs →
    t.isCollection = false →
    MisfitAt nodes number .endless

variable {before nodes : Nodes} {number : Nat}

/-- The tag of a node says which misfits the node can have. -/
lemma MisfitAt.rejects {cause : Misfit} (h : nodes.MisfitAt number cause) :
    cause = .endless ∨ (nodes.tag number).Rejects cause := by
  unfold Nodes.tag
  cases h with
  | scalar here misfit =>
    rw [here]
    exact .inr (rejects_of_scalarKey misfit)
  | mapping here _ misfit =>
    rw [here]
    exact .inr (rejects_of_scalarKey misfit)
  | notText here =>
    rw [here]
    exact .inr .notText
  | endless => exact .inl rfl

/-- A text is that of a scalar. -/
lemma text_scalar (nodes : Nodes) (fuel number : Nat) :
    Yields (fun text => ∃ other t, nodes.node other = .scalar t text) (Fault.Of (· = .endless))
      (nodes.text fuel number) := by
  induction fuel generalizing number with
  | zero => exact .error (.misfit rfl)
  | succ fuel ih =>
    unfold Nodes.text
    split
    · next scalar => exact .ok ⟨_, _, scalar⟩
    · split
      · exact ih _
      · exact .error .malformed
    · exact .error .malformed

/-- A misfit under the tag that a tag becomes is a misfit under that tag, too. -/
lemma scalarKey_becomes {t t' : Tag} (h : t.Becomes t') {origin : Nat} {text : String} {cause : Misfit}
    (misfit : Yaml.scalarKey origin t' text = .error (.misfit cause)) :
    Yaml.scalarKey origin t text = .error (.misfit cause) := by
  cases h with
  | same => exact misfit
  | text => cases misfit

/-- The key of a scalar fits its tag or has a misfit of it. -/
lemma scalarKey_of {Q : Prop} {R : Misfit → Prop} {origin : Nat} {t : Tag} {text : String}
    (fits : ∀ key, Yaml.scalarKey origin t text = .ok key → Q)
    (h : ∀ cause, Yaml.scalarKey origin t text = .error (.misfit cause) → R cause) :
    Yields (fun _ => Q) (Fault.Of R) (Yaml.scalarKey origin t text) := by
  generalize Yaml.scalarKey origin t text = x at fits h
  cases x with
  | ok key => exact .ok (fits key rfl)
  | error fault =>
    cases fault with
    | malformed => exact .error .malformed
    | misfit cause => exact .error (.misfit (h cause rfl))

/-- A tag that is one of scalars after merging was none of collections before. -/
lemma isCollection_becomes {t t' : Tag} (h : t.Becomes t') (scalar : t'.isScalar = true) :
    t.isCollection = false := by
  rw [h.isCollection]
  cases t' <;> first | rfl | cases scalar

section Kinds

variable {t : Tag}

/-- The key of a scalar is read from its text. -/
lemma scalarKey_scalar {text : String} (h : nodes.node number = .scalar t text) :
    nodes.scalarKey number = Yaml.scalarKey (number + 1) t text := by
  unfold Nodes.scalarKey Nodes.text
  rw [h]
  cases t <;> rfl

/-- A sequence is no key. -/
lemma scalarKey_sequence {items : List Nat} (h : nodes.node number = .sequence t items) :
    nodes.scalarKey number = .error .malformed := by
  unfold Nodes.scalarKey Nodes.text
  rw [h]
  cases t <;> rfl

/-- A mapping is a key only if its tag is one of scalars. -/
lemma scalarKey_mapping {pairs : List (Nat × Nat)} (h : nodes.node number = .mapping t pairs) :
    nodes.scalarKey number =
      if t.isScalar then do
        let text ← nodes.text (nodes.size + 1) number
        if t = .timestamp then .error (.misfit .notText) else Yaml.scalarKey (number + 1) t text
      else .error .malformed := by
  unfold Nodes.scalarKey
  rw [h]
  cases t <;> rfl

end Kinds

/-- If the node with the number is a scalar, its text fits its tag. -/
def FitsAt (nodes : Nodes) (number : Nat) : Prop :=
  ∀ t text, nodes.node number = .scalar t text →
    ∀ cause, Yaml.scalarKey (number + 1) t text ≠ .error (.misfit cause)

/-- A collection fits, whatever its tag is. -/
lemma fitsAt_collection (h : (nodes.tag number).isCollection = true) : nodes.FitsAt number := by
  intro t text scalar cause misfit
  unfold Nodes.tag at h
  rw [scalar] at h
  cases t <;> first | cases misfit | cases h

/-- There is no node beyond the last number. -/
lemma node_beyond (h : nodes.size ≤ number) : nodes.node number = .nothing := by
  unfold Nodes.node
  rw [Array.getD_eq_getD_getElem?, Array.getElem?_eq_none h]
  rfl

/-- What is no node fits. -/
lemma fitsAt_beyond (h : nodes.size ≤ number) : nodes.FitsAt number := by
  intro t text scalar cause misfit
  rw [node_beyond h] at scalar
  cases scalar
  cases misfit

/-- What a node stands for is found after merging exactly if the node had no misfit before. -/
lemma Becomes.scalarKey (h : before.Becomes nodes) (number : Nat) :
    Yields (fun _ => before.FitsAt number) (Fault.Of (before.MisfitAt number))
      (nodes.scalarKey number) := by
  have becomes := h number
  cases hn : nodes.node number with
  | scalar t text =>
    rw [hn] at becomes
    obtain ⟨u, hu, tag⟩ := becomes.scalar_inv
    rw [scalarKey_scalar hn]
    apply scalarKey_of
    · intro key fits u' text' hu' cause misfit
      cases hu.symm.trans hu'
      -- Merging leaves a tag or makes it one of texts, and every text fits that.
      cases tag with
      | same => cases fits.symm.trans misfit
      | text => cases misfit
    · intro cause misfit
      exact .scalar hu (scalarKey_becomes tag misfit)
  | sequence =>
    rw [scalarKey_sequence hn]
    exact .error .malformed
  | mapping t pairs =>
    rw [hn] at becomes
    obtain ⟨u, others, hu, tag⟩ := becomes.mapping_inv
    have fits : before.FitsAt number := by
      intro t text scalar
      cases hu.symm.trans scalar
    rw [scalarKey_mapping hn]
    -- A mapping stands for the text of its default, if its tag is one of scalars.
    split
    · next isScalar =>
      have found := nodes.text_scalar (nodes.size + 1) number
      have endless : before.MisfitAt number .endless :=
        .endless hu (isCollection_becomes tag isScalar)
      apply (found.error_imp fun _ h => h.mono fun _ same => same ▸ endless).bind
      rintro text ⟨other, v, scalar⟩
      obtain ⟨w, hw, -⟩ := (scalar ▸ h other).scalar_inv
      split
      · next stamp =>
        subst stamp
        cases tag with
        | same => exact .error (.misfit (.notText hu))
      · apply scalarKey_of
        · exact fun _ _ => fits
        · intro cause misfit
          exact .mapping hu hw (scalarKey_becomes tag misfit)
    · exact .error .malformed

end Nodes

end WorkflowExpr.Yaml
