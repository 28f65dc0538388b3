import WorkflowExpr.Evaluation.Resolve
import WorkflowExpr.Proofs.Evaluation.Access
import WorkflowExpr.Proofs.Value.Model

/-!
# Shapes of values

A value has a shape when nothing foreign stands at any depth of it and the keys of every object satisfy a
condition. Whatever is read from a value of a shape has it too. The values whose keys can be written are
those that have a JSON form.
-/

namespace WorkflowExpr

/-- A value of the language in which the keys of every object, in their order, satisfy a condition. -/
inductive Value.Shaped (K : List Key → Prop) : Value → Prop where
  | null :
    Shaped K .null
  | boolean {b} :
    Shaped K (.boolean b)
  | integer {n} :
    Shaped K (.integer n)
  | real {x} :
    Shaped K (.real x)
  | string {s} :
    Shaped K (.string s)
  | array {items} :
    (∀ v ∈ items, Shaped K v) →
    Shaped K (.array items)
  | object {members} :
    K (members.map Prod.fst) →
    (∀ entry ∈ members, Shaped K entry.2) →
    Shaped K (.object members)

namespace Value

section Parts

variable {K : List Key → Prop}

/-- A value has every weaker shape. -/
lemma Shaped.mono {K' : List Key → Prop} {v : Value} (h : v.Shaped K) (hK : ∀ keys, K keys → K' keys) :
    v.Shaped K' := by
  induction h with
  | null => exact .null
  | boolean => exact .boolean
  | integer => exact .integer
  | real => exact .real
  | string => exact .string
  | array _ ih => exact .array ih
  | object keys _ ih => exact .object (hK _ keys) ih

/-- A value of the language is one that has a shape without condition. -/
lemma shaped_true_iff {v : Value} : v.Shaped (fun _ => True) ↔ v.InModel := by
  constructor
  · intro h
    induction h with
    | array _ ih => exact .array ih
    | object _ _ ih => exact .object ih
    | _ => constructor
  · intro h
    induction h with
    | array _ ih => exact .array ih
    | object _ ih => exact .object trivial ih
    | _ => constructor

/-- A value of any shape is one of the language. -/
lemma Shaped.inModel {v : Value} (h : v.Shaped K) : v.InModel :=
  shaped_true_iff.1 (h.mono fun _ _ => trivial)

/-- A member of a value of a shape has that shape. -/
lemma Shaped.member {key : Key} {members : List (Key × Value)} {v : Value}
    (h : Shaped K (.object members)) (hm : member? key members = some v) : v.Shaped K := by
  obtain ⟨k, mem⟩ := mem_of_member hm
  cases h with
  | object _ hs => exact hs _ mem

/-- The parts of a value of a shape have that shape. -/
lemma Shaped.parts {v : Value} {items : List Value} (h : v.Shaped K) (hp : v.parts? = some items) :
    ∀ item ∈ items, item.Shaped K := by
  cases h with
  | array hs =>
    cases hp
    exact hs
  | object _ hs =>
    cases hp
    intro item hi
    obtain ⟨entry, he, rfl⟩ := List.mem_map.1 hi
    exact hs entry he
  | _ =>
    cases hp
    exact List.forall_mem_nil _

/-- What is projected from a value of a shape has that shape. -/
lemma Shaped.projected {v : Value} (h : v.Shaped K) (name : String) :
    (Resolved.projected name v).Shaped K := by
  cases h with
  | @object members keys hs =>
    rw [Resolved.projected]
    cases hm : member? (.text name) members with
    | none => exact .null
    | some w => exact Shaped.member (.object keys hs) hm
  | _ => exact .null

end Parts

/-- The keys of read fields are their names. -/
lemma keys_ofJsonFields (fields : List (String × Json)) :
    (ofJsonFields fields).map Prod.fst = (fields.map Prod.fst).map .text := by
  induction fields with
  | nil => rfl
  | cons field fields ih => rw [ofJsonFields, List.map_cons, ih, List.map_cons, List.map_cons]

mutual

/-- The value of a document has every shape that all lists of texts satisfy. -/
theorem shaped_ofJson {K : List Key → Prop} (texts : ∀ names : List String, K (names.map .text)) :
    (j : Json) → (ofJson j).Shaped K
  | .null => .null
  | .boolean _ => .boolean
  | .integer _ => .integer
  | .real _ => .real
  | .string _ => .string
  | .array items => .array (shaped_ofJsonItems texts items)
  | .object fields => by
    refine .object ?_ (shaped_ofJsonFields texts fields)
    rw [keys_ofJsonFields]
    exact texts _

/-- The items that are read from documents have every shape that all lists of texts satisfy. -/
theorem shaped_ofJsonItems {K : List Key → Prop} (texts : ∀ names : List String, K (names.map .text)) :
    (items : List Json) → ∀ v ∈ ofJsonItems items, v.Shaped K
  | [] => List.forall_mem_nil _
  | item :: rest => List.forall_mem_cons.2 ⟨shaped_ofJson texts item, shaped_ofJsonItems texts rest⟩

/-- The members that are read from documents have every shape that all lists of texts satisfy. -/
theorem shaped_ofJsonFields {K : List Key → Prop} (texts : ∀ names : List String, K (names.map .text)) :
    (fields : List (String × Json)) → ∀ entry ∈ ofJsonFields fields, entry.2.Shaped K
  | [] => List.forall_mem_nil _
  | (_, value) :: rest =>
    List.forall_mem_cons.2 ⟨shaped_ofJson texts value, shaped_ofJsonFields texts rest⟩

end

/-- A value of the language in which the text of every key can be written. -/
def Writable (v : Value) : Prop :=
  v.Shaped fun keys => ∀ key ∈ keys, key.limit? = none

/-- A member whose key can be written is written in front of the others. -/
lemma membersToJson_cons {key : Key} {value : Value} {rest : List (Key × Value)}
    (h : key.limit? = none) :
    membersToJson ((key, value) :: rest) =
      value.toJson >>= fun j => membersToJson rest >>= fun js => .ok ((key.display, j) :: js) := by
  rw [membersToJson, h]
  rfl

/-- Members that are written have a key that can be written in front. -/
lemma membersToJson_inv {key : Key} {value : Value} {rest : List (Key × Value)}
    {fields : List (String × Json)} (h : membersToJson ((key, value) :: rest) = .ok fields) :
    key.limit? = none ∧ ∃ j, value.toJson = .ok j ∧ ∃ js, membersToJson rest = .ok js ∧
      fields = (key.display, j) :: js := by
  cases hl : key.limit? with
  | some limit =>
    rw [membersToJson, hl] at h
    cases h
  | none =>
    rw [membersToJson_cons hl] at h
    obtain ⟨j, hj, h⟩ := bind_eq_ok.1 h
    obtain ⟨js, hs, ⟨⟩⟩ := bind_eq_ok.1 h
    exact ⟨rfl, j, hj, js, hs, rfl⟩

mutual

/-- The values that have a JSON form are those of the language whose keys can be written. -/
theorem exists_toJson_iff : (v : Value) → ((∃ j, v.toJson = .ok j) ↔ v.Writable)
  | null => ⟨fun _ => .null, fun _ => ⟨_, rfl⟩⟩
  | boolean _ => ⟨fun _ => .boolean, fun _ => ⟨_, rfl⟩⟩
  | integer _ => ⟨fun _ => .integer, fun _ => ⟨_, rfl⟩⟩
  | real _ => ⟨fun _ => .real, fun _ => ⟨_, rfl⟩⟩
  | string _ => ⟨fun _ => .string, fun _ => ⟨_, rfl⟩⟩
  | array items => by
    have each := exists_itemsToJson_iff items
    constructor
    · rintro ⟨j, h⟩
      obtain ⟨js, hs, -⟩ := bind_eq_ok.1 h
      exact .array (each.1 ⟨js, hs⟩)
    · rintro (_ | _ | _ | _ | _ | hs)
      obtain ⟨js, h⟩ := each.2 hs
      exact ⟨_, bind_eq_ok.2 ⟨js, h, rfl⟩⟩
  | object members => by
    have each := exists_membersToJson_iff members
    constructor
    · rintro ⟨j, h⟩
      obtain ⟨js, hs, -⟩ := bind_eq_ok.1 h
      obtain ⟨keys, values⟩ := each.1 ⟨js, hs⟩
      exact .object keys values
    · rintro (_ | _ | _ | _ | _ | _ | ⟨keys, values⟩)
      obtain ⟨js, h⟩ := each.2 ⟨keys, values⟩
      exact ⟨_, bind_eq_ok.2 ⟨js, h, rfl⟩⟩
  | foreign _ => ⟨nofun, nofun⟩

/-- Items have a JSON form when each of them can be written. -/
theorem exists_itemsToJson_iff : (items : List Value) →
    ((∃ js, itemsToJson items = .ok js) ↔ ∀ v ∈ items, v.Writable)
  | [] => ⟨fun _ => List.forall_mem_nil _, fun _ => ⟨_, rfl⟩⟩
  | item :: rest => by
    rw [List.forall_mem_cons, ← exists_toJson_iff item, ← exists_itemsToJson_iff rest]
    constructor
    · rintro ⟨js, h⟩
      obtain ⟨j, hj, h⟩ := bind_eq_ok.1 h
      obtain ⟨js', hs, -⟩ := bind_eq_ok.1 h
      exact ⟨⟨j, hj⟩, js', hs⟩
    · rintro ⟨⟨j, hj⟩, js, hs⟩
      exact ⟨_, bind_eq_ok.2 ⟨j, hj, bind_eq_ok.2 ⟨js, hs, rfl⟩⟩⟩

/-- Members have a JSON form when their keys and values can be written. -/
theorem exists_membersToJson_iff : (members : List (Key × Value)) →
    ((∃ js, membersToJson members = .ok js) ↔
      (∀ key ∈ members.map Prod.fst, key.limit? = none) ∧ ∀ entry ∈ members, entry.2.Writable)
  | [] => ⟨fun _ => ⟨List.forall_mem_nil _, List.forall_mem_nil _⟩, fun _ => ⟨_, rfl⟩⟩
  | (key, value) :: rest => by
    rw [List.map_cons, List.forall_mem_cons, List.forall_mem_cons, and_and_and_comm,
      ← exists_toJson_iff value, ← exists_membersToJson_iff rest]
    constructor
    · rintro ⟨js, h⟩
      obtain ⟨hl, j, hj, js', hs, -⟩ := membersToJson_inv h
      exact ⟨⟨hl, j, hj⟩, js', hs⟩
    · rintro ⟨⟨hl, j, hj⟩, js, hs⟩
      rw [membersToJson_cons hl]
      exact ⟨_, bind_eq_ok.2 ⟨j, hj, bind_eq_ok.2 ⟨js, hs, rfl⟩⟩⟩

end

end Value

end WorkflowExpr
