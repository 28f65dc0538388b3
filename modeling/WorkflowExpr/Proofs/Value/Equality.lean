import Mathlib.Data.List.Forall2
import Mathlib.Logic.Relation
import WorkflowExpr.Proofs.Distinct
import WorkflowExpr.Proofs.Value.Doubled
import WorkflowExpr.Proofs.Value.Key
import WorkflowExpr.Proofs.Value.Shape

/-!
# Loose equality

Loose equality has an answer for any two values of the language. It is symmetric, and it does not see in
which order the members of objects stand. A value is equal to itself unless a number in it is none.
-/

namespace WorkflowExpr

/-- A value of the language as a host holds it, with the keys of every object kept apart. -/
def Value.Keyed (v : Value) : Prop :=
  v.Shaped Key.Distinct

/-- The members of one object, anywhere in a value, are put into another order. -/
inductive Value.Reorders : Value → Value → Prop where
  | members {ms ns} :
    ms.Perm ns →
    Reorders (.object ms) (.object ns)
  | item {v w front back} :
    Reorders v w →
    Reorders (.array (front ++ v :: back)) (.array (front ++ w :: back))
  | member {v w key front back} :
    Reorders v w →
    Reorders (.object (front ++ (key, v) :: back)) (.object (front ++ (key, w) :: back))

section Answers

variable {c d : Except Failure Bool}

/-- Two answers are equal when they are yes together. -/
lemma answer_eq (hc : ∃ b, c = .ok b) (hd : ∃ b, d = .ok b) (h : c = .ok true ↔ d = .ok true) :
    c = d := by
  obtain ⟨b, rfl⟩ := hc
  obtain ⟨b', rfl⟩ := hd
  cases b with
  | true => exact (h.1 rfl).symm
  | false =>
    cases b' with
    | true => cases h.2 rfl
    | false => rfl

/-- Two questions are both answered with yes when each of them is. -/
lemma both_eq_true : (c >>= fun b => if b then d else pure false) = .ok true ↔
    c = .ok true ∧ d = .ok true := by
  cases c with
  | error => exact ⟨nofun, nofun⟩
  | ok b =>
    cases b with
    | true => exact ⟨fun h => ⟨rfl, h⟩, And.right⟩
    | false => exact ⟨nofun, nofun⟩

/-- Two questions have an answer together when each of them has one. -/
lemma both_answered (hc : ∃ b, c = .ok b) (hd : ∃ b, d = .ok b) :
    ∃ b, (c >>= fun b => if b then d else pure false) = .ok b := by
  obtain ⟨b, rfl⟩ := hc
  cases b with
  | true => exact hd
  | false => exact ⟨false, rfl⟩

end Answers

namespace Value

section Scalars

variable {v w : Value} {x y : Double} {s t : String}

/-- A scalar in the model stands for a double. -/
lemma InModel.exists_number (h : v.InModel) (atom : v.isAtom = true) : ∃ x, v.toNumber = .ok x := by
  cases h with
  | null => cases atom
  | array => cases atom
  | object => cases atom
  | _ => exact ⟨_, rfl⟩

/-- A scalar in the model has a text. -/
lemma InModel.exists_text (h : v.InModel) (atom : v.isAtom = true) : ∃ s, v.toText = .ok s := by
  cases h with
  | null => cases atom
  | array => cases atom
  | object => cases atom
  | _ => exact ⟨_, rfl⟩

/-- Scalars are compared as numbers if one of them is a number, and else as texts. -/
lemma scalarEquals_eq (hx : v.toNumber = .ok x) (hy : w.toNumber = .ok y) (hs : v.toText = .ok s)
    (ht : w.toText = .ok t) :
    scalarEquals v w = .ok (if v.isNumber || w.isNumber then x.equals y else s == t) := by
  rw [scalarEquals, hx, hy, hs, ht]
  split
  · rfl
  · rfl

/-- Two scalars are compared as scalars. -/
lemma looseEquals_scalar (hv : v.InModel) (atom : v.isAtom = true) (hw : w.InModel)
    (atom' : w.isAtom = true) : v.looseEquals w = scalarEquals v w := by
  obtain ⟨k, hk⟩ := hv.kind
  have ne : w ≠ null := by
    rintro rfl
    cases atom'
  rw [looseEquals_atom atom ne, hk]
  cases hw with
  | array => cases atom'
  | object => cases atom'
  | _ => rfl

/-- A scalar that is not null is not equal to what is no such scalar. -/
lemma looseEquals_mixed (hv : v.InModel) (atom : v.isAtom = true) (hw : w.InModel)
    (other : w.isAtom = false) : v.looseEquals w = .ok false := by
  obtain ⟨k, hk⟩ := hv.kind
  cases hw with
  | null =>
    cases v with
    | null => cases atom
    | _ => rfl
  | @array items =>
    have ne : array items ≠ null := nofun
    rw [looseEquals_atom atom ne, hk]
    rfl
  | @object members =>
    have ne : object members ≠ null := nofun
    rw [looseEquals_atom atom ne, hk]
    rfl
  | _ => cases other

/-- A scalar can be compared with any value of the language. -/
lemma exists_scalarEquals (hv : v.InModel) (atom : v.isAtom = true) (hw : w.InModel) :
    ∃ b, v.looseEquals w = .ok b := by
  cases atom' : w.isAtom with
  | false => exact ⟨false, looseEquals_mixed hv atom hw atom'⟩
  | true =>
    obtain ⟨x, hx⟩ := hv.exists_number atom
    obtain ⟨y, hy⟩ := hw.exists_number atom'
    obtain ⟨s, hs⟩ := hv.exists_text atom
    obtain ⟨t, ht⟩ := hw.exists_text atom'
    rw [looseEquals_scalar hv atom hw atom']
    exact ⟨_, scalarEquals_eq hx hy hs ht⟩

/-- Equality with a scalar is symmetric. -/
lemma scalarEquals_symm (hv : v.InModel) (atom : v.isAtom = true) (hw : w.InModel)
    (h : v.looseEquals w = .ok true) : w.looseEquals v = .ok true := by
  cases atom' : w.isAtom with
  | false => cases (looseEquals_mixed hv atom hw atom').symm.trans h
  | true =>
    obtain ⟨x, hx⟩ := hv.exists_number atom
    obtain ⟨y, hy⟩ := hw.exists_number atom'
    obtain ⟨s, hs⟩ := hv.exists_text atom
    obtain ⟨t, ht⟩ := hw.exists_text atom'
    rw [looseEquals_scalar hv atom hw atom', scalarEquals_eq hx hy hs ht] at h
    rw [looseEquals_scalar hw atom' hv atom, scalarEquals_eq hy hx ht hs, Bool.or_comm,
      Double.equals_comm, BEq.comm (a := t)]
    exact h

end Scalars

section Parts

variable {xs ys : List Value} {ms ns : List (Key × Value)} {v w : Value}

/-- Items are compared one after the other, up to the first difference. -/
lemma itemsEqual_cons (x y : Value) (xs ys : List Value) :
    itemsEqual (x :: xs) (y :: ys) =
      (x.looseEquals y >>= fun b => if b then itemsEqual xs ys else pure false) := by
  rw [itemsEqual]

/-- Members are compared one after the other, up to the first difference. -/
lemma membersEqual_cons {key : Key} (found : member? key ns = some w) (v : Value)
    (ms : List (Key × Value)) :
    membersEqual ((key, v) :: ms) ns =
      (v.looseEquals w >>= fun b => if b then membersEqual ms ns else pure false) := by
  rw [membersEqual, found]

/-- Arrays are equal when their items are, one by one. -/
lemma looseEquals_array_iff : (array xs).looseEquals (array ys) = .ok true ↔
    List.Forall₂ (fun x y => x.looseEquals y = .ok true) xs ys := by
  rw [looseEquals_array]
  induction xs generalizing ys with
  | nil =>
    cases ys with
    | nil => exact ⟨fun _ => .nil, fun _ => rfl⟩
    | cons => exact ⟨nofun, nofun⟩
  | cons x xs ih =>
    cases ys with
    | nil => exact ⟨nofun, nofun⟩
    | cons y ys =>
      rw [List.forall₂_cons, ← ih, itemsEqual_cons]
      by_cases length : xs.length = ys.length
      · simp only [List.length_cons, length, beq_self_eq_true, if_true]
        exact both_eq_true
      · simp [length]

/-- Members are equal when each has an equal one under its key. -/
lemma membersEqual_iff : membersEqual ms ns = .ok true ↔
    ∀ entry ∈ ms, ∃ w, member? entry.1 ns = some w ∧ entry.2.looseEquals w = .ok true := by
  induction ms with
  | nil => exact ⟨fun _ => List.forall_mem_nil _, fun _ => rfl⟩
  | cons entry ms ih =>
    obtain ⟨key, v⟩ := entry
    rw [List.forall_mem_cons, ← ih]
    cases found : member? key ns with
    | none =>
      rw [membersEqual, found]
      exact ⟨nofun, nofun⟩
    | some w =>
      rw [membersEqual_cons found, both_eq_true]
      simp

/-- Objects have the same keys when they have as many members and each key is found. -/
lemma sameKeys_iff : sameKeys ms ns = true ↔
    ms.length = ns.length ∧ ∀ entry ∈ ms, ∃ w, member? entry.1 ns = some w := by
  simp only [sameKeys, Bool.and_eq_true, beq_iff_eq, List.all_eq_true, Option.isSome_iff_exists]

/-- Objects are equal when they have as many members as each other and each member of the one has an equal
one under the same key of the other. -/
lemma looseEquals_object_iff (distinct : Key.Distinct (ns.map Prod.fst)) :
    (object ms).looseEquals (object ns) = .ok true ↔ ms.length = ns.length ∧
      ∀ entry ∈ ms, ∃ other ∈ ns, entry.1.same other.1 = true ∧
        entry.2.looseEquals other.2 = .ok true := by
  have partner (entry : Key × Value) :
      (∃ w, member? entry.1 ns = some w ∧ entry.2.looseEquals w = .ok true) ↔
        ∃ other ∈ ns, entry.1.same other.1 = true ∧ entry.2.looseEquals other.2 = .ok true := by
    simp only [member_eq_some_iff distinct, Key.same_comm entry.1]
    constructor
    · rintro ⟨_, ⟨other, mem, same, rfl⟩, equal⟩
      exact ⟨other, mem, same, equal⟩
    · rintro ⟨other, mem, same, equal⟩
      exact ⟨_, ⟨other, mem, same, rfl⟩, equal⟩
  simp only [← partner]
  rw [looseEquals_object]
  constructor
  · intro h
    split at h
    · next keys => exact ⟨(sameKeys_iff.1 keys).1, membersEqual_iff.1 h⟩
    · cases h
  · rintro ⟨length, equal⟩
    have keys : sameKeys ms ns = true :=
      sameKeys_iff.2 ⟨length, fun entry mem => (equal entry mem).imp fun _ h => h.1⟩
    rw [if_pos keys]
    exact membersEqual_iff.2 equal

/-- Items can be compared when each of them can. -/
lemma exists_itemsEqual (each : ∀ x ∈ xs, ∀ y, y.InModel → ∃ b, x.looseEquals y = .ok b)
    (hys : ∀ y ∈ ys, y.InModel) : ∃ b, itemsEqual xs ys = .ok b := by
  induction xs generalizing ys with
  | nil => exact ⟨true, by rw [itemsEqual]; exact nofun⟩
  | cons x xs ih =>
    cases ys with
    | nil => exact ⟨true, rfl⟩
    | cons y ys =>
      obtain ⟨first, others⟩ := List.forall_mem_cons.1 each
      obtain ⟨hy, hys⟩ := List.forall_mem_cons.1 hys
      rw [itemsEqual_cons]
      exact both_answered (first y hy) (ih others hys)

/-- Members can be compared when the value of each of them can. -/
lemma exists_membersEqual
    (each : ∀ entry ∈ ms, ∀ w, w.InModel → ∃ b, entry.2.looseEquals w = .ok b)
    (hns : (object ns).InModel) : ∃ b, membersEqual ms ns = .ok b := by
  induction ms with
  | nil => exact ⟨true, rfl⟩
  | cons entry ms ih =>
    obtain ⟨key, v⟩ := entry
    obtain ⟨first, others⟩ := List.forall_mem_cons.1 each
    cases found : member? key ns with
    | none => exact ⟨false, by rw [membersEqual, found]; rfl⟩
    | some w =>
      rw [membersEqual_cons found]
      exact both_answered (first w (hns.member found)) (ih others)

/-- Loose equality has an answer for any two values of the language. -/
theorem exists_looseEquals (hv : v.InModel) (hw : w.InModel) : ∃ b, v.looseEquals w = .ok b := by
  induction hv generalizing w with
  | null =>
    cases w with
    | null => exact ⟨true, rfl⟩
    | _ => exact ⟨false, rfl⟩
  | boolean => exact exists_scalarEquals .boolean rfl hw
  | integer => exact exists_scalarEquals .integer rfl hw
  | real => exact exists_scalarEquals .real rfl hw
  | string => exact exists_scalarEquals .string rfl hw
  | array _ ih =>
    cases hw with
    | array hws =>
      rw [looseEquals_array]
      split
      · exact exists_itemsEqual (fun x mem _ => ih x mem) hws
      · exact ⟨false, rfl⟩
    | _ => exact ⟨false, rfl⟩
  | object _ ih =>
    cases hw with
    | object hws =>
      rw [looseEquals_object]
      split
      · exact exists_membersEqual (fun entry mem _ => ih entry mem) (.object hws)
      · exact ⟨false, rfl⟩
    | _ => exact ⟨false, rfl⟩

end Parts

section Laws

variable {u v w v' : Value}

/-- Loose equality holds both ways round. -/
theorem looseEquals_symm (hv : v.Keyed) (hw : w.Keyed) (h : v.looseEquals w = .ok true) :
    w.looseEquals v = .ok true := by
  induction hv generalizing w with
  | null =>
    cases w with
    | null => rfl
    | _ => cases h
  | boolean => exact scalarEquals_symm .boolean rfl hw.inModel h
  | integer => exact scalarEquals_symm .integer rfl hw.inModel h
  | real => exact scalarEquals_symm .real rfl hw.inModel h
  | string => exact scalarEquals_symm .string rfl hw.inModel h
  | @array xs _ ih =>
    cases hw with
    | @array ys hys =>
      rw [looseEquals_array_iff] at h ⊢
      -- What is known of the items of either side is kept with each pair.
      have left := (List.forall₂_and_left xs ys).2 ⟨fun x mem y => ih x mem (w := y), h⟩
      have right := (List.forall₂_and_left ys xs).2 ⟨hys, left.flip⟩
      exact right.imp fun y x ⟨hy, turn, equal⟩ => turn y hy equal
    | _ => cases h
  | @object ms keys _ ih =>
    cases hw with
    | @object ns keys' hns =>
      rw [looseEquals_object_iff keys'] at h
      rw [looseEquals_object_iff keys]
      obtain ⟨length, equal⟩ := h
      -- No two members of the one have their partner in common, so that none of the other is left over.
      have unique : ∀ entry ∈ ms, ∀ entry' ∈ ms, ∀ other : Key × Value,
          (entry.1.same other.1 = true ∧ entry.2.looseEquals other.2 = .ok true) →
          (entry'.1.same other.1 = true ∧ entry'.2.looseEquals other.2 = .ok true) →
          entry = entry' :=
        fun _ mem _ mem' _ h h' => eq_of_same keys mem mem' (Key.same_trans h.1 (Key.same_symm h'.1))
      have partner := exists_partner keys.nodup.of_map (Nat.le_of_eq length.symm) unique equal
      refine ⟨length.symm, fun other mem => ?_⟩
      obtain ⟨entry, mem', same, equal⟩ := partner other mem
      exact ⟨entry, mem', Key.same_symm same, ih entry mem' (hns other mem) equal⟩
    | _ => cases h

/-- It makes no difference which of two values is compared with the other one. -/
theorem looseEquals_comm (hv : v.Keyed) (hw : w.Keyed) : v.looseEquals w = w.looseEquals v :=
  answer_eq (exists_looseEquals hv.inModel hw.inModel) (exists_looseEquals hw.inModel hv.inModel)
    ⟨looseEquals_symm hv hw, looseEquals_symm hw hv⟩

/-- The numbers of items are those of each of them. -/
lemma mem_itemNumbers {items : List Value} {x : Double} :
    x ∈ itemNumbers items ↔ ∃ item ∈ items, x ∈ item.numbers := by
  induction items with
  | nil => simp [itemNumbers]
  | cons item items ih => simp [itemNumbers, ih]

/-- The numbers of members are those of the value of each of them. -/
lemma mem_memberNumbers {members : List (Key × Value)} {x : Double} :
    x ∈ memberNumbers members ↔ ∃ entry ∈ members, x ∈ entry.2.numbers := by
  induction members with
  | nil => simp [memberNumbers]
  | cons entry members ih => simp [memberNumbers, ih]

/-- A value is equal to itself unless a number in it is none. -/
theorem looseEquals_self_iff (hv : v.Keyed) :
    v.looseEquals v = .ok true ↔ ∀ x ∈ v.numbers, x.isNaN = false := by
  induction hv with
  | null => exact ⟨fun _ => List.forall_mem_nil _, fun _ => rfl⟩
  | @boolean b =>
    refine ⟨fun _ => List.forall_mem_nil _, fun _ => ?_⟩
    cases b with
    | _ => rfl
  | @integer n =>
    rw [numbers, List.forall_mem_singleton, ← Double.equals_self_iff]
    exact ⟨Except.ok.inj, congrArg Except.ok⟩
  | @real x =>
    rw [numbers, List.forall_mem_singleton, ← Double.equals_self_iff]
    exact ⟨Except.ok.inj, congrArg Except.ok⟩
  | @string s =>
    refine ⟨fun _ => List.forall_mem_nil _, fun _ => ?_⟩
    exact congrArg Except.ok (beq_self_eq_true s)
  | @array items _ ih =>
    rw [looseEquals_array_iff, List.forall₂_same, numbers]
    simp only [mem_itemNumbers]
    constructor
    · rintro equal x ⟨item, mem, hx⟩
      exact (ih item mem).1 (equal item mem) x hx
    · intro numbers item mem
      exact (ih item mem).2 fun x hx => numbers x ⟨item, mem, hx⟩
  | @object members keys _ ih =>
    rw [looseEquals_object_iff keys, numbers]
    simp only [mem_memberNumbers, true_and]
    constructor
    · rintro equal x ⟨entry, mem, hx⟩
      -- With keys apart, the member found under the key of a member is that member.
      obtain ⟨other, mem', same, equal⟩ := equal entry mem
      obtain rfl := eq_of_same keys mem mem' same
      exact (ih entry mem).1 equal x hx
    · intro numbers entry mem
      have found := keys.found entry.1 (List.mem_map_of_mem mem)
      exact ⟨entry, mem, found, (ih entry mem).2 fun x hx => numbers x ⟨entry, mem, hx⟩⟩

/-- A reordered value keeps its keys apart. -/
lemma Reorders.keyed (h : v.Reorders v') (hv : v.Keyed) : v'.Keyed := by
  induction h with
  | members perm =>
    cases hv with
    | object keys hs =>
      exact .object (keys.perm (perm.map Prod.fst)) fun entry mem => hs entry (perm.mem_iff.2 mem)
  | item _ ih =>
    cases hv with
    | array hs =>
      obtain ⟨front, back⟩ := List.forall_mem_append.1 hs
      obtain ⟨here, back⟩ := List.forall_mem_cons.1 back
      exact .array (List.forall_mem_append.2 ⟨front, List.forall_mem_cons.2 ⟨ih here, back⟩⟩)
  | member _ ih =>
    cases hv with
    | object keys hs =>
      obtain ⟨front, back⟩ := List.forall_mem_append.1 hs
      obtain ⟨here, back⟩ := List.forall_mem_cons.1 back
      refine .object ?_ (List.forall_mem_append.2 ⟨front, List.forall_mem_cons.2 ⟨ih here, back⟩⟩)
      rwa [List.map_append, List.map_cons] at keys ⊢

/-- An item may be replaced by one that is compared alike. -/
lemma itemsEqual_congr {front back ys : List Value}
    (same : ∀ y ∈ ys, v.looseEquals y = v'.looseEquals y) :
    itemsEqual (front ++ v :: back) ys = itemsEqual (front ++ v' :: back) ys := by
  induction front generalizing ys with
  | nil =>
    cases ys with
    | nil => rfl
    | cons y ys => rw [List.nil_append, List.nil_append, itemsEqual_cons, itemsEqual_cons, same y (.head _)]
  | cons x front ih =>
    cases ys with
    | nil => rfl
    | cons y ys =>
      rw [List.cons_append, List.cons_append, itemsEqual_cons, itemsEqual_cons,
        ih fun y mem => same y (.tail _ mem)]

/-- A member may be replaced by one that is compared alike. -/
lemma membersEqual_congr {key : Key} {front back ns : List (Key × Value)}
    (same : ∀ w, member? key ns = some w → v.looseEquals w = v'.looseEquals w) :
    membersEqual (front ++ (key, v) :: back) ns = membersEqual (front ++ (key, v') :: back) ns := by
  induction front with
  | nil =>
    rw [List.nil_append, List.nil_append]
    cases found : member? key ns with
    | none => rw [membersEqual, membersEqual, found]
    | some w => rw [membersEqual_cons found, membersEqual_cons found, same w found]
  | cons entry front ih =>
    rw [List.cons_append, List.cons_append, membersEqual, membersEqual, ih]

/-- The order of members does not count on the left of a comparison. -/
theorem Reorders.looseEquals (h : v.Reorders v') (hv : v.Keyed) (hw : w.Keyed) :
    v'.looseEquals w = v.looseEquals w := by
  have hv' := h.keyed hv
  -- One row of members is reordered, and around it the comparison goes item by item and key by key.
  induction h generalizing w with
  | @members ms ns perm =>
    cases hw with
    | @object os keys hs =>
      have ho : (object os).Keyed := .object keys hs
      apply answer_eq (exists_looseEquals hv'.inModel ho.inModel)
        (exists_looseEquals hv.inModel ho.inModel)
      rw [looseEquals_object_iff keys, looseEquals_object_iff keys, perm.length_eq]
      simp only [perm.mem_iff]
    | _ => rfl
  | @item v v' front back h ih =>
    cases hv with
    | array hs =>
      have here : v.Keyed := hs v (List.mem_append_right _ (.head _))
      cases hw with
      | array hys =>
        rw [looseEquals_array, looseEquals_array, List.length_append, List.length_append,
          List.length_cons, List.length_cons,
          itemsEqual_congr fun y mem => ih here (hys y mem) (h.keyed here)]
      | _ => rfl
  | @member v v' key front back h ih =>
    cases hv with
    | object keys hs =>
      have here : v.Keyed := hs (key, v) (List.mem_append_right _ (.head _))
      cases hw with
      | @object ns keys' hns =>
        have hn : (object ns).Keyed := .object keys' hns
        have names : sameKeys (front ++ (key, v') :: back) ns =
            sameKeys (front ++ (key, v) :: back) ns := by
          simp only [sameKeys, List.length_append, List.length_cons, List.all_append, List.all_cons]
        rw [looseEquals_object, looseEquals_object, names,
          membersEqual_congr fun w found => ih here (hn.member found) (h.keyed here)]
      | _ => rfl

/-- Reordering a value any number of times makes no difference to a comparison. -/
lemma reordered_looseEquals (h : Relation.ReflTransGen Reorders v v') (hv : v.Keyed)
    (hw : w.Keyed) : v'.Keyed ∧ v'.looseEquals w = v.looseEquals w := by
  induction h with
  | refl => exact ⟨hv, rfl⟩
  | tail _ step ih => exact ⟨step.keyed ih.1, (step.looseEquals ih.1 hw).trans ih.2⟩

end Laws

end Value

/-- Loose equality of values of the language has an answer, which is the same both ways round and however
the members of the objects in them are ordered. A value is equal to itself exactly if no number in it is
none. -/
theorem looseEquals_laws {v w : Value} (hv : v.Keyed) (hw : w.Keyed) :
    (∃ b, v.looseEquals w = .ok b) ∧
      v.looseEquals w = w.looseEquals v ∧
      (∀ v' w', Relation.ReflTransGen Value.Reorders v v' → Relation.ReflTransGen Value.Reorders w w' →
        v'.looseEquals w' = v.looseEquals w) ∧
      (v.looseEquals v = .ok true ↔ ∀ x ∈ v.numbers, x.isNaN = false) := by
  refine ⟨Value.exists_looseEquals hv.inModel hw.inModel, Value.looseEquals_comm hv hw, ?_,
    Value.looseEquals_self_iff hv⟩
  intro v' w' left right
  obtain ⟨hv', first⟩ := Value.reordered_looseEquals left hv hw
  obtain ⟨hw', second⟩ := Value.reordered_looseEquals right hw hv'
  calc v'.looseEquals w' = w'.looseEquals v' := Value.looseEquals_comm hv' hw'
    _ = w.looseEquals v' := second
    _ = v'.looseEquals w := Value.looseEquals_comm hw hv'
    _ = v.looseEquals w := first

/-- Two nested values with their members in different order, and with what is no number in them, obey the laws. -/
theorem looseEquals_laws_nested :
    let v : Value := .object [(.text "a", .array [.integer 1, .real .nan]), (.text "b", .string "x")]
    let w : Value := .object [(.text "b", .string "x"), (.text "a", .array [.integer 1, .real .nan])]
    v.Keyed ∧ w.Keyed ∧ (∃ b, v.looseEquals w = .ok b) ∧ v.looseEquals w = w.looseEquals v ∧
      w.looseEquals w = v.looseEquals w ∧ ¬ v.looseEquals v = .ok true := by
  intro v w
  have distinct : Key.Distinct [.text "a", .text "b"] := ⟨by decide, by decide⟩
  have items : (Value.array [.integer 1, .real .nan]).Keyed := by
    apply Value.Shaped.array
    exact List.forall_mem_cons.2 ⟨.integer, List.forall_mem_singleton.2 .real⟩
  have hv : v.Keyed :=
    .object distinct (List.forall_mem_cons.2 ⟨items, List.forall_mem_singleton.2 .string⟩)
  have swapped : v.Reorders w := .members (.swap ..)
  have hw : w.Keyed := swapped.keyed hv
  obtain ⟨answer, comm, reordered, self⟩ := looseEquals_laws hv hw
  refine ⟨hv, hw, answer, comm, reordered w w (.single swapped) .refl, fun equal => ?_⟩
  exact nomatch self.1 equal .nan (List.mem_cons_of_mem _ (List.mem_singleton_self _))

end WorkflowExpr
