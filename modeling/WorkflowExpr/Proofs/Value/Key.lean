import Mathlib.Data.List.Pairwise
import WorkflowExpr.Proofs.Number.Rank
import WorkflowExpr.Value.Basic

/-!
# Keys that are filed in the same place

Being filed in the same place is symmetric and transitive. A host keeps the keys of an object apart, so that
a key finds one member at most, wherever that stands. Filing a value changes what one place holds, and puts a
key that is new behind all others.
-/

namespace WorkflowExpr

namespace Moment

/-- What moments are told apart by: their clock, or the clock of universal time if their zone is known. -/
def instant (t : Moment) : Int ⊕ Int :=
  match t.offset with
  | none => .inl t.clock
  | some minutes => .inr (t.clock - minutes * 60000000)

/-- Moments are the same when their instants are. -/
lemma same_iff {s t : Moment} : s.same t = true ↔ s.instant = t.instant := by
  rw [same, instant, instant]
  cases s.offset with
  | none => cases t.offset <;> simp
  | some => cases t.offset <;> simp

end Moment

/-- Two keys are filed in the same place. -/
inductive Key.Same : Key → Key → Prop where
  | integer {a b n} :
    a.number? = some (.inl n) →
    b.number? = some (.inl n) →
    Same a b
  | real {a b x y} :
    a.number? = some (.inr x) →
    b.number? = some (.inr y) →
    x.equals y = true →
    Same a b
  | moment {s t} :
    s.same t = true →
    Same (.moment s) (.moment t)
  | other {a} :
    a.number? = none →
    Same a a

namespace Key

variable {a b c : Key}

/-- A key that is no number is filed in its own place. -/
lemma same_self (h : a.number? = none) : a.same a = true := by
  rw [same.eq_def, h]
  cases a with
  | moment => exact Moment.same_iff.2 rfl
  | _ => exact beq_self_eq_true _

/-- Keys are the same when they are filed in the same place. -/
lemma same_iff : a.same b = true ↔ a.Same b := by
  constructor
  · intro h
    rw [same.eq_def] at h
    split at h
    · next m n ha hb =>
      obtain rfl := eq_of_beq h
      exact .integer ha hb
    · next ha hb => exact .real ha hb h
    · next ha _ =>
      split at h
      · exact .moment h
      · obtain rfl := eq_of_beq h
        exact .other ha
    · cases h
  · intro h
    cases h with
    | integer ha hb =>
      rw [same.eq_def, ha, hb]
      exact beq_self_eq_true _
    | real ha hb h =>
      rw [same.eq_def, ha, hb]
      exact h
    | moment h => exact h
    | other ha => exact same_self ha

/-- Sameness of keys is symmetric. -/
lemma same_symm (h : a.same b = true) : b.same a = true := by
  rw [same_iff] at h ⊢
  cases h with
  | integer ha hb => exact .integer hb ha
  | real ha hb h => exact .real hb ha (Double.equals_symm h)
  | moment h => exact .moment (Moment.same_iff.2 (Moment.same_iff.1 h).symm)
  | other ha => exact .other ha

/-- Texts are filed in the same place when they are the same. -/
lemma same_text_iff {s t : String} : (Key.text s).same (.text t) = true ↔ s = t := by
  rw [same_iff]
  constructor
  · intro h
    cases h with
    | integer number => cases number
    | real number => cases number
    | other => rfl
  · rintro rfl
    exact .other rfl

/-- It makes no difference which of two keys is compared with the other one. -/
lemma same_comm (a b : Key) : a.same b = b.same a :=
  Bool.eq_iff_iff.2 ⟨same_symm, same_symm⟩

/-- Sameness of keys is transitive. -/
lemma same_trans (h : a.same b = true) (h' : b.same c = true) : a.same c = true := by
  rw [same_iff] at h h' ⊢
  cases h with
  | integer ha hb =>
    cases h' with
    | integer hb' hc =>
      cases hb.symm.trans hb'
      exact .integer ha hc
    | real hb' => cases hb.symm.trans hb'
    | moment => cases hb
    | other hb' => cases hb.symm.trans hb'
  | real ha hb h =>
    cases h' with
    | integer hb' => cases hb.symm.trans hb'
    | real hb' hc h' =>
      cases hb.symm.trans hb'
      exact .real ha hc (Double.equals_trans h h')
    | moment => cases hb
    | other hb' => cases hb.symm.trans hb'
  | moment h =>
    cases h' with
    | integer hb' => cases hb'
    | real hb' => cases hb'
    | moment h' =>
      exact .moment (Moment.same_iff.2 ((Moment.same_iff.1 h).trans (Moment.same_iff.1 h')))
    | other => exact .moment h
  | other => exact h'

/-- Keys as a host keeps them in one object: each is found again, and no two are filed in the same place. -/
structure Distinct (keys : List Key) : Prop where
  found : ∀ key ∈ keys, key.same key = true
  apart : keys.Pairwise fun a b => a.same b = false

/-- Keys stay distinct in another order. -/
lemma Distinct.perm {keys keys' : List Key} (h : Distinct keys) (perm : keys.Perm keys') :
    Distinct keys' where
  found key mem := h.found key (perm.mem_iff.2 mem)
  apart := h.apart.perm perm fun apart => (same_comm _ _).trans apart

/-- Distinct keys do not come up twice. -/
lemma Distinct.nodup {keys : List Key} (h : Distinct keys) : keys.Nodup := by
  refine h.apart.imp_of_mem fun {a b} mem _ apart => ?_
  rintro rfl
  cases (h.found a mem).symm.trans apart

end Key

namespace Value

variable {α : Type} {members : List (Key × α)}

/-- Members whose keys are filed in the same place are one. -/
lemma eq_of_same (distinct : Key.Distinct (members.map Prod.fst)) {entry other : Key × α}
    (mem : entry ∈ members) (mem' : other ∈ members) (h : entry.1.same other.1 = true) :
    entry = other := by
  by_contra ne
  have : Std.Symm fun e o : Key × α => e.1.same o.1 = false :=
    ⟨fun e o apart => (Key.same_comm o.1 e.1).trans apart⟩
  have apart := (List.pairwise_map.1 distinct.apart).forall mem mem' ne
  cases h.symm.trans apart

/-- A key finds the member that is filed in its place. -/
lemma member_eq_some_iff (distinct : Key.Distinct (members.map Prod.fst)) {key : Key} {a : α} :
    member? key members = some a ↔ ∃ entry ∈ members, entry.1.same key = true ∧ entry.2 = a := by
  rw [member?, Option.map_eq_some_iff]
  constructor
  · rintro ⟨entry, found, rfl⟩
    have same : entry.1.same key = true := by simpa using List.find?_some found
    exact ⟨entry, List.mem_of_find?_eq_some found, same, rfl⟩
  · rintro ⟨entry, mem, same, rfl⟩
    cases found : members.find? fun entry => entry.1.same key with
    | none => exact absurd same (List.find?_eq_none.1 found entry mem)
    | some other =>
      have same' : other.1.same key = true := by simpa using List.find?_some found
      obtain rfl := eq_of_same distinct (List.mem_of_find?_eq_some found) mem
        (Key.same_trans same' (Key.same_symm same))
      exact ⟨other, rfl, rfl⟩

section Insert

variable {α : Type}

/-- A member is the first one if its key is the same, and else one of the others. -/
lemma member_cons (key k : Key) (a : α) (members : List (Key × α)) :
    member? key ((k, a) :: members) = if k.same key then some a else member? key members := by
  rw [member?, List.find?_cons]
  cases k.same key with
  | true => rfl
  | false => rfl

/-- What is filed under a key is found under the keys of its place, and nothing else changes. -/
lemma member_insert (key other : Key) (a : α) (members : List (Key × α)) :
    member? other (insert key a members) = if key.same other then some a else member? other members := by
  induction members with
  | nil => exact member_cons other key a []
  | cons entry members ih =>
    obtain ⟨k, b⟩ := entry
    rw [insert]
    cases place : k.same key with
    | true =>
      -- Both keys are filed in the place where the entry stands.
      have alike : k.same other = key.same other :=
        Bool.eq_iff_iff.2 ⟨Key.same_trans (Key.same_symm place), Key.same_trans place⟩
      rw [if_pos rfl, member_cons, member_cons, alike]
      split
      · rfl
      · rfl
    | false =>
      rw [if_neg Bool.false_ne_true, member_cons, member_cons, ih]
      cases found : k.same other with
      | true =>
        have apart : key.same other ≠ true := fun same =>
          Bool.false_ne_true (place.symm.trans (Key.same_trans found (Key.same_symm same)))
        rw [if_pos rfl, if_pos rfl, if_neg apart]
      | false => rw [if_neg Bool.false_ne_true, if_neg Bool.false_ne_true]

/-- A key that is new stands behind all others, and the place of one that is known does not change. -/
lemma keys_insert (key : Key) (a : α) (members : List (Key × α)) :
    (insert key a members).map Prod.fst =
      members.map Prod.fst ++ if (member? key members).isNone then [key] else [] := by
  induction members with
  | nil => rfl
  | cons entry members ih =>
    obtain ⟨k, b⟩ := entry
    rw [insert, member_cons]
    cases k.same key with
    | true => exact (List.append_nil _).symm
    | false =>
      rw [if_neg Bool.false_ne_true, if_neg Bool.false_ne_true, List.map_cons, ih]
      rfl

end Insert

end Value

end WorkflowExpr
