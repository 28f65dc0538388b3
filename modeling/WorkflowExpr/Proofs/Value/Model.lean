import Mathlib.Tactic.Lemma
import WorkflowExpr.Value.Coercion

/-!
# The value model

The values that the language has: nothing foreign stands at any depth of them. The numbers in a value are
those at all depths of it; the keys of objects are names and do not count.
-/

namespace WorkflowExpr

/-- A value of the language. -/
inductive Value.InModel : Value → Prop where
  | null :
    InModel .null
  | boolean {b} :
    InModel (.boolean b)
  | integer {n} :
    InModel (.integer n)
  | real {x} :
    InModel (.real x)
  | string {s} :
    InModel (.string s)
  | array {items} :
    (∀ v ∈ items, InModel v) →
    InModel (.array items)
  | object {members} :
    (∀ entry ∈ members, InModel entry.2) →
    InModel (.object members)

mutual

/-- The numbers at all depths of a value, as doubles. -/
def Value.numbers : Value → List Double
  | .integer n => [.ofInt n]
  | .real x => [x]
  | .array items => Value.itemNumbers items
  | .object members => Value.memberNumbers members
  | _ => []

/-- The numbers at all depths of items, as doubles. -/
def Value.itemNumbers : List Value → List Double
  | [] => []
  | item :: rest => item.numbers ++ Value.itemNumbers rest

/-- The numbers at all depths of the values of members, as doubles. -/
def Value.memberNumbers : List (Key × Value) → List Double
  | [] => []
  | (_, value) :: rest => value.numbers ++ Value.memberNumbers rest

end

namespace Value

/-- A value of the language has a kind. -/
lemma InModel.kind {v : Value} (h : v.InModel) : ∃ k, v.kind = .ok k := by
  cases h with
  | _ => exact ⟨_, rfl⟩

/-- A member that is found is one of the members. -/
lemma mem_of_member {α : Type} {key : Key} {members : List (Key × α)} {a : α}
    (h : member? key members = some a) : ∃ k, (k, a) ∈ members := by
  obtain ⟨⟨k, _⟩, hf, rfl⟩ := Option.map_eq_some_iff.1 h
  exact ⟨k, List.mem_of_find?_eq_some hf⟩

/-- A member of a value of the language is one, too. -/
lemma InModel.member {key : Key} {members : List (Key × Value)} {v : Value}
    (h : InModel (.object members)) (hm : member? key members = some v) : v.InModel := by
  obtain ⟨k, mem⟩ := mem_of_member hm
  cases h with
  | object hs => exact hs _ mem

end Value

end WorkflowExpr
