import WorkflowExpr.Evaluation.Resolve
import WorkflowExpr.Proofs.Result

/-!
# Successful accesses

What it takes to read a root, a member, an element or all parts of a value, and what path the result
has then.
-/

namespace WorkflowExpr

/-- The parts of an array or an object; other values of the language have none. -/
def Value.parts? : Value → Option (List Value)
  | array items => some items
  | object members => some (members.map (·.2))
  | foreign _ => none
  | _ => some []

/-- A function that a library gives is one of those registered. -/
lemma Library.mem_of_get {l : Library} {name : String} {f : Function} (h : l.get name = .ok f) :
    f ∈ l.functions := by
  unfold get at h
  split at h
  · next found =>
    cases h
    exact List.mem_of_find?_eq_some found
  · cases h

namespace Resolved

variable {base r : Resolved}

/-- A member is read from an object that has it, or from all elements of an array. -/
lemma property_ok {name : String} :
    base.property name = .ok r ↔
      (∃ members v, base.value = .object members ∧ Value.member? (.text name) members = some v ∧
        r = ⟨v, base.path.map (memberPath · name)⟩) ∨
      ∃ items, base.value = .array items ∧
        r = ⟨.array (items.map (projected name)), base.path.map (projectedPath · name)⟩ := by
  constructor
  · intro h
    unfold property at h
    split at h
    · next members hb =>
      split at h
      · next v hm =>
        cases h
        exact .inl ⟨members, v, hb, hm, rfl⟩
      · cases hl : members.findSome? fun entry => entry.1.limit? <;> simp only [hl] at h <;> cases h
    · next items hb =>
      cases h
      exact .inr ⟨items, hb, rfl⟩
    · obtain ⟨_, -, h⟩ := bind_eq_ok.1 h
      cases h
  · rintro (⟨members, v, hb, hm, rfl⟩ | ⟨items, hb, rfl⟩)
    · simp only [property, hb, hm]
      rfl
    · simp only [property, hb]
      rfl

/-- An element is read from an array at an index that stands for a finite number in its range. -/
lemma element_ok {position : Value} :
    base.element position = .ok r ↔
      ∃ items number v, base.value = .array items ∧ position.toNumber = .ok number ∧
        number.isFinite = true ∧ 0 ≤ number.truncate ∧ items[number.truncate.toNat]? = some v ∧
        r = ⟨v, base.path.map (elementPath · number.truncate)⟩ := by
  constructor
  · intro h
    unfold element at h
    split at h
    · next items hb =>
      obtain ⟨number, hn, h⟩ := bind_eq_ok.1 h
      -- An index that is not finite, or out of range, is an error.
      cases finite : number.isFinite with
      | false =>
        simp only [finite] at h
        obtain ⟨_, -, h⟩ := bind_eq_ok.1 h
        cases h
      | true =>
        simp only [finite] at h
        by_cases negative : number.truncate < 0
        · simp only [negative] at h
          cases h
        · simp only [negative, if_false] at h
          cases hv : items[number.truncate.toNat]? with
          | none =>
            simp only [hv] at h
            cases h
          | some v =>
            simp only [hv] at h
            cases h
            exact ⟨items, number, v, hb, hn, finite, by omega, hv, rfl⟩
    · obtain ⟨_, -, h⟩ := bind_eq_ok.1 h
      cases h
  · rintro ⟨items, number, v, hb, hn, finite, range, hv, rfl⟩
    have negative : ¬ number.truncate < 0 := by omega
    simp only [element, hb]
    refine bind_eq_ok.2 ⟨number, hn, ?_⟩
    simp only [finite, negative, if_false, hv]
    rfl

/-- All parts are read from any value of the language. -/
lemma parts_ok :
    base.parts = .ok r ↔
      ∃ items, base.value.parts? = some items ∧ r = ⟨.array items, base.path.map allPath⟩ := by
  obtain ⟨value, path⟩ := base
  cases value with
  | foreign =>
    constructor
    · nofun
    · nofun
  | _ =>
    constructor
    · intro h
      cases h
      exact ⟨_, rfl, rfl⟩
    · rintro ⟨items, hi, rfl⟩
      cases hi
      rfl

end Resolved

end WorkflowExpr
