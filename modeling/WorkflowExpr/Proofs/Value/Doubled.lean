import WorkflowExpr.Proofs.Number.Integer
import WorkflowExpr.Value.Plain

/-!
# Integers as doubles

A host integer counts as the double nearest to it: coercions, loose equality and the JSON form of a value
stay as they are when every integer in it is replaced by its double.
-/

namespace WorkflowExpr

namespace Value

mutual

/-- The value with every integer in it, at any depth, replaced by its double. Keys stay as they are. -/
def doubled : Value → Value
  | null => null
  | boolean b => boolean b
  | integer n => real (.ofInt n)
  | real x => real x
  | string s => string s
  | array items => array (doubledItems items)
  | object members => object (doubledMembers members)
  | foreign f => foreign f

/-- The items with every integer in them replaced by its double. -/
def doubledItems : List Value → List Value
  | [] => []
  | item :: rest => item.doubled :: doubledItems rest

/-- The members with every integer in their values replaced by its double. -/
def doubledMembers : List (Key × Value) → List (Key × Value)
  | [] => []
  | (key, value) :: rest => (key, value.doubled) :: doubledMembers rest

end

/-- Items are doubled one by one. -/
@[simp]
lemma doubledItems_eq_map (items : List Value) : doubledItems items = items.map doubled := by
  induction items with
  | nil => rfl
  | cons item rest ih => rw [doubledItems, ih, List.map_cons]

/-- Members are doubled one by one, under the same keys. -/
@[simp]
lemma doubledMembers_eq_map (members : List (Key × Value)) :
    doubledMembers members = members.map fun entry => (entry.1, entry.2.doubled) := by
  induction members with
  | nil => rfl
  | cons entry rest ih => rw [doubledMembers, ih, List.map_cons]

mutual

/-- A doubled value has no integers to be doubled. -/
theorem doubled_doubled : (v : Value) → v.doubled.doubled = v.doubled
  | null => rfl
  | boolean _ => rfl
  | integer _ => by rw [doubled, doubled]
  | real _ => rfl
  | string _ => rfl
  | array items => congrArg array (doubledItems_doubled items)
  | object members => congrArg object (doubledMembers_doubled members)
  | foreign _ => rfl

/-- The same for each of some items. -/
theorem doubledItems_doubled : (items : List Value) →
    doubledItems (doubledItems items) = doubledItems items
  | [] => rfl
  | item :: rest => congrArg₂ List.cons (doubled_doubled item) (doubledItems_doubled rest)

/-- The same for each of some members. -/
theorem doubledMembers_doubled : (members : List (Key × Value)) →
    doubledMembers (doubledMembers members) = doubledMembers members
  | [] => rfl
  | (key, value) :: rest =>
    congrArg₂ List.cons (congrArg (Prod.mk key) (doubled_doubled value)) (doubledMembers_doubled rest)

end

/-- A doubled value has the same kind. -/
@[simp]
lemma kind_doubled (v : Value) : v.doubled.kind = v.kind := by
  cases v <;> rfl

/-- A doubled value has the same truth. -/
@[simp]
lemma isTruthy_doubled (v : Value) : v.doubled.isTruthy = v.isTruthy := by
  cases v <;> rfl

/-- A doubled value stands for the same number. -/
@[simp]
lemma toNumber_doubled (v : Value) : v.doubled.toNumber = v.toNumber := by
  cases v <;> rfl

/-- An integer has the text of its double. -/
lemma toText_real_ofInt (n : Int) : (real (.ofInt n)).toText = (integer n).toText := by
  rw [toText, toText, integerText_eq_text]

/-- A doubled value has the same text. -/
@[simp]
lemma toText_doubled (v : Value) : v.doubled.toText = v.toText := by
  cases v with
  | integer n => exact toText_real_ofInt n
  | _ => rfl

/-- A doubled value is a number when the value is one. -/
@[simp]
lemma isNumber_doubled (v : Value) : v.doubled.isNumber = v.isNumber := by
  cases v <;> rfl

/-- A member is found under the same keys when all are doubled. -/
@[simp]
lemma member_doubled (key : Key) (members : List (Key × Value)) :
    member? key (members.map fun entry => (entry.1, entry.2.doubled)) =
      (member? key members).map doubled := by
  rw [member?, member?, List.find?_map, Option.map_map, Option.map_map]
  rfl

/-- Scalars are compared as their doubles. -/
lemma scalarEquals_doubled (v w : Value) : scalarEquals v.doubled w.doubled = scalarEquals v w := by
  simp only [scalarEquals, isNumber_doubled, toNumber_doubled, toText_doubled]

/-- Doubles in the values leave the keys the same. -/
lemma sameKeys_doubled (ms ns : List (Key × Value)) :
    sameKeys (ms.map fun entry => (entry.1, entry.2.doubled))
      (ns.map fun entry => (entry.1, entry.2.doubled)) = sameKeys ms ns := by
  simp [sameKeys, Function.comp_def]

/-- Arrays are compared item by item, if they are of one length. -/
lemma looseEquals_array (xs ys : List Value) :
    (array xs).looseEquals (array ys) =
      if xs.length == ys.length then itemsEqual xs ys else .ok false :=
  rfl

/-- Objects are compared member by member, if they have the same keys. -/
lemma looseEquals_object (ms ns : List (Key × Value)) :
    (object ms).looseEquals (object ns) = if sameKeys ms ns then membersEqual ms ns else .ok false :=
  rfl

/-- Whether a value is compared by its kind: neither null, nor an array or object. -/
def isAtom : Value → Bool
  | null => false
  | array _ => false
  | object _ => false
  | _ => true

/-- A doubled value is compared by its kind when the value is. -/
lemma isAtom_doubled (v : Value) : v.doubled.isAtom = v.isAtom := by
  cases v <;> rfl

/-- What is compared by its kind differs from arrays and objects, and is compared with anything else as a scalar. -/
lemma looseEquals_atom {v w : Value} (h : v.isAtom = true) (hw : w ≠ null) :
    v.looseEquals w = v.kind >>= fun _ => w.kind >>= fun k =>
      match k with
      | .array => .ok false
      | .object => .ok false
      | _ => scalarEquals v w := by
  cases v with
  | null => cases h
  | array => cases h
  | object => cases h
  | _ =>
    cases w with
    | null => exact absurd rfl hw
    | _ => rfl

/-- It makes no difference to a comparison by kind whether both sides are doubled. -/
lemma looseEquals_atom_doubled {v : Value} (h : v.isAtom = true) (w : Value) :
    v.doubled.looseEquals w.doubled = v.looseEquals w := by
  by_cases hw : w = null
  · subst hw
    cases v <;> rfl
  · have hw' : w.doubled ≠ null := by
      cases w with
      | null => exact absurd rfl hw
      | _ => nofun
    rw [looseEquals_atom h hw, looseEquals_atom ((isAtom_doubled v).trans h) hw', kind_doubled,
      kind_doubled, scalarEquals_doubled]

mutual

/-- Loose equality does not tell integers from their doubles. -/
theorem looseEquals_doubled : (v w : Value) → v.doubled.looseEquals w.doubled = v.looseEquals w
  | null, w => by cases w <;> rfl
  | boolean _, w => looseEquals_atom_doubled rfl w
  | integer _, w => looseEquals_atom_doubled rfl w
  | real _, w => looseEquals_atom_doubled rfl w
  | string _, w => looseEquals_atom_doubled rfl w
  | foreign _, w => looseEquals_atom_doubled rfl w
  | array xs, w => by
    cases w with
    | array ys =>
      rw [doubled, doubled, looseEquals_array, looseEquals_array, doubledItems_eq_map,
        doubledItems_eq_map, List.length_map, List.length_map, itemsEqual_doubled xs ys]
    | _ => rfl
  | object ms, w => by
    cases w with
    | object ns =>
      rw [doubled, doubled, looseEquals_object, looseEquals_object, doubledMembers_eq_map,
        doubledMembers_eq_map, sameKeys_doubled, membersEqual_doubled ms ns]
    | _ => rfl

/-- Items are compared as their doubles. -/
theorem itemsEqual_doubled : (xs ys : List Value) →
    itemsEqual (xs.map doubled) (ys.map doubled) = itemsEqual xs ys
  | [], _ => rfl
  | _ :: _, [] => rfl
  | x :: xs, y :: ys => by
    simp only [List.map_cons, itemsEqual, looseEquals_doubled x y, itemsEqual_doubled xs ys]

/-- Members are compared as their doubles. -/
theorem membersEqual_doubled : (ms ns : List (Key × Value)) →
    membersEqual (ms.map fun entry => (entry.1, entry.2.doubled))
      (ns.map fun entry => (entry.1, entry.2.doubled)) = membersEqual ms ns
  | [], _ => rfl
  | (key, x) :: rest, ns => by
    simp only [List.map_cons, membersEqual, member_doubled]
    cases member? key ns with
    | none => rfl
    | some y => simp only [Option.map_some, looseEquals_doubled x y, membersEqual_doubled rest ns]

end

mutual

/-- The JSON form of a value is that of its double. -/
theorem toJson_doubled : (v : Value) → v.doubled.toJson = v.toJson
  | null => rfl
  | boolean _ => rfl
  | integer _ => by rw [doubled, toJson, toJson]
  | real _ => rfl
  | string _ => rfl
  | array items => by
    simp only [doubled, doubledItems_eq_map, toJson, itemsToJson_doubled items]
  | object members => by
    simp only [doubled, doubledMembers_eq_map, toJson, membersToJson_doubled members]
  | foreign _ => rfl

/-- Items have the same JSON form when they are doubled. -/
theorem itemsToJson_doubled : (items : List Value) →
    itemsToJson (items.map doubled) = itemsToJson items
  | [] => rfl
  | item :: rest => by
    simp only [List.map_cons, itemsToJson, toJson_doubled item, itemsToJson_doubled rest]

/-- Members have the same JSON form when they are doubled. -/
theorem membersToJson_doubled : (members : List (Key × Value)) →
    membersToJson (members.map fun entry => (entry.1, entry.2.doubled)) = membersToJson members
  | [] => rfl
  | (key, value) :: rest => by
    simp only [List.map_cons, membersToJson, toJson_doubled value, membersToJson_doubled rest]

end

/-- A doubled value has the same JSON text. -/
lemma toJsonText_doubled (v : Value) : v.doubled.toJsonText = v.toJsonText := by
  rw [toJsonText, toJsonText, toJson_doubled]

end Value

end WorkflowExpr
