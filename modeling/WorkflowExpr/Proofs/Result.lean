import Mathlib.Data.List.Forall2
import Mathlib.Tactic.Lemma

/-!
# Results

What it takes for two results in a row to be there, and what can be said of a result or of an error without
knowing which of the two there is. A computation with a state is safe when this can be said in every state
with an invariant, which it keeps.
-/

namespace WorkflowExpr

variable {ε α β γ σ : Type}

/-- Two results in a row are there when both are. -/
lemma bind_eq_ok {x : Except ε α} {f : α → Except ε β} {b : β} :
    (x >>= f) = .ok b ↔ ∃ a, x = .ok a ∧ f a = .ok b := by
  constructor
  · intro h
    cases x with
    | error => cases h
    | ok a => exact ⟨a, rfl, h⟩
  · rintro ⟨a, rfl, h⟩
    exact h

/-- Two results in a row fail where the first one does, or else where the second one does. -/
lemma bind_eq_error {x : Except ε α} {f : α → Except ε β} {e : ε} :
    (x >>= f) = .error e ↔ x = .error e ∨ ∃ a, x = .ok a ∧ f a = .error e := by
  constructor
  · intro h
    cases x with
    | error =>
      cases h
      exact .inl rfl
    | ok a => exact .inr ⟨a, rfl, h⟩
  · rintro (rfl | ⟨a, rfl, h⟩)
    · rfl
    · exact h

/-- A mapped result comes from a result. -/
lemma map_eq_ok {x : Except ε α} {f : α → β} {b : β} : x.map f = .ok b ↔ ∃ a, x = .ok a ∧ f a = b := by
  constructor
  · intro h
    cases x with
    | error => cases h
    | ok a => exact ⟨a, rfl, Except.ok.inj h⟩
  · rintro ⟨a, rfl, rfl⟩
    rfl

/-- A mapped error is the same error. -/
lemma map_eq_error {x : Except ε α} {f : α → β} {e : ε} : x.map f = .error e ↔ x = .error e := by
  cases x with
  | error => exact ⟨fun h => congrArg Except.error (Except.error.inj h), fun h => congrArg (Except.map f) h⟩
  | ok => exact ⟨nofun, nofun⟩

/-- Two maps are one. -/
lemma map_map (x : Except ε α) (f : α → β) (g : β → γ) : (x.map f).map g = x.map fun a => g (f a) := by
  cases x with
  | error => rfl
  | ok => rfl

section Each

variable {f : α → Except ε β} {xs : List α} {ys : List β} {e : ε}

/-- What is done with the results of a list is done with those of the rest, the first one in front. -/
lemma map_mapM_cons (x : α) (xs : List α) (g : List β → γ) :
    ((x :: xs).mapM f).map g = f x >>= fun y => (xs.mapM f).map fun ys => g (y :: ys) := by
  rw [List.mapM_cons]
  cases f x with
  | error => rfl
  | ok =>
    cases xs.mapM f with
    | error => rfl
    | ok => rfl

/-- There is a result for each element. -/
lemma mapM_eq_ok : xs.mapM f = .ok ys ↔ List.Forall₂ (fun x y => f x = .ok y) xs ys := by
  induction xs generalizing ys with
  | nil =>
    constructor
    · rintro ⟨⟩
      exact .nil
    · rintro ⟨⟩
      rfl
  | cons x xs ih =>
    rw [List.mapM_cons, bind_eq_ok]
    constructor
    · rintro ⟨y, hy, rest⟩
      obtain ⟨ys, hys, ⟨⟩⟩ := bind_eq_ok.1 rest
      exact .cons hy (ih.1 hys)
    · intro h
      cases h with
      | cons hy hys => exact ⟨_, hy, bind_eq_ok.2 ⟨_, ih.2 hys, rfl⟩⟩

/-- Where all elements have results, each of them has one. -/
lemma exists_ok_of_mapM (h : xs.mapM f = .ok ys) {x : α} (mem : x ∈ xs) : ∃ y, f x = .ok y := by
  induction mapM_eq_ok.1 h with
  | nil => cases mem
  | cons hx hxs ih =>
    cases mem with
    | head => exact ⟨_, hx⟩
    | tail _ mem => exact ih (mapM_eq_ok.2 hxs) mem

/-- A traversal depends on what is done to the elements of the list alone. -/
lemma mapM_congr {g : α → Except ε β} (same : ∀ x ∈ xs, f x = g x) : xs.mapM f = xs.mapM g := by
  induction xs with
  | nil => rfl
  | cons x xs ih =>
    obtain ⟨first, rest⟩ := List.forall_mem_cons.1 same
    rw [List.mapM_cons, List.mapM_cons, first, ih rest]

/-- The error is that of the first element that has no result. -/
lemma mapM_eq_error :
    xs.mapM f = .error e ↔ ∃ before x after, xs = before ++ x :: after ∧
      (∀ y ∈ before, ∃ b, f y = .ok b) ∧ f x = .error e := by
  induction xs with
  | nil =>
    constructor
    · rintro ⟨⟩
    · rintro ⟨before, x, after, split, -⟩
      exact absurd split.symm (List.append_ne_nil_of_right_ne_nil before (List.cons_ne_nil x after))
  | cons x xs ih =>
    rw [List.mapM_cons, bind_eq_error]
    constructor
    · rintro (hx | ⟨y, hy, rest⟩)
      · exact ⟨[], x, xs, rfl, List.forall_mem_nil _, hx⟩
      · rcases bind_eq_error.1 rest with hxs | ⟨ys, -, ⟨⟩⟩
        obtain ⟨before, z, after, rfl, results, hz⟩ := ih.1 hxs
        exact ⟨x :: before, z, after, rfl, List.forall_mem_cons.2 ⟨⟨y, hy⟩, results⟩, hz⟩
    · rintro ⟨before, z, after, split, results, hz⟩
      cases before with
      | nil =>
        cases split
        exact .inl hz
      | cons _ before =>
        cases split
        obtain ⟨⟨y, hy⟩, results⟩ := List.forall_mem_cons.1 results
        exact .inr ⟨y, hy, bind_eq_error.2 (.inl (ih.2 ⟨before, z, after, rfl, results, hz⟩))⟩

end Each

/-- A result has one property, or the error in its place another one. -/
inductive Yields (Q : α → Prop) (P : ε → Prop) : Except ε α → Prop where
  | ok {a} :
    Q a →
    Yields Q P (.ok a)
  | error {e} :
    P e →
    Yields Q P (.error e)

namespace Yields

variable {P : ε → Prop} {Q : α → Prop} {R : β → Prop}

/-- Results may be said to have a weaker property. -/
lemma imp {Q' : α → Prop} {x : Except ε α} (h : Yields Q P x) (weaker : ∀ a, Q a → Q' a) :
    Yields Q' P x := by
  cases h with
  | ok h => exact .ok (weaker _ h)
  | error h => exact .error h

/-- Errors may be said to have a weaker property. -/
lemma error_imp {P' : ε → Prop} {x : Except ε α} (h : Yields Q P x) (weaker : ∀ e, P e → P' e) :
    Yields Q P' x := by
  cases h with
  | ok h => exact .ok h
  | error h => exact .error (weaker _ h)

/-- A step on results that have a property has the property of that step. -/
lemma bind {x : Except ε α} {f : α → Except ε β} (h : Yields Q P x)
    (rest : ∀ a, Q a → Yields R P (f a)) : Yields R P (x >>= f) := by
  cases h with
  | ok h => exact rest _ h
  | error h => exact .error h

/-- A choice has the property when both sides have it. -/
lemma ite {p : Prop} [Decidable p] {x y : Except ε α} (hx : Yields Q P x) (hy : Yields Q P y) :
    Yields Q P (if p then x else y) := by
  split
  · exact hx
  · exact hy

/-- A traversal ends with errors of its steps alone. -/
lemma mapM {f : α → Except ε β} (h : ∀ a, Yields R P (f a)) (xs : List α) :
    Yields (fun _ => True) P (xs.mapM f) := by
  induction xs with
  | nil => exact .ok trivial
  | cons x xs ih =>
    rw [List.mapM_cons]
    apply (h x).bind
    intro _ _
    apply ih.bind
    intro _ _
    exact .ok trivial

/-- A fold keeps what every step keeps. -/
lemma foldlM {f : β → α → Except ε β} {xs : List α} (h : ∀ b, R b → ∀ x ∈ xs, Yields R P (f b x))
    {b : β} (hb : R b) : Yields R P (xs.foldlM f b) := by
  induction xs generalizing b with
  | nil => exact .ok hb
  | cons x xs ih =>
    rw [List.foldlM_cons]
    apply (h b hb x (List.mem_cons_self ..)).bind
    intro b hb
    exact ih (fun b hb y hy => h b hb y (List.mem_cons_of_mem _ hy)) hb

end Yields

/-- A computation keeps an invariant of its state; its results have one property, and the errors that it
ends with another one. -/
def Safe (I : σ → Prop) (P : ε → Prop) (Q : α → Prop) (x : StateT σ (Except ε) α) : Prop :=
  ∀ s, I s → Yields (fun (a, s) => Q a ∧ I s) P (x s)

namespace Safe

variable {I : σ → Prop} {P : ε → Prop} {Q : α → Prop} {R : β → Prop}

/-- A value is a safe computation. -/
lemma pure {a : α} (h : Q a) : Safe I P Q (Pure.pure a) := fun _ hs =>
  .ok ⟨h, hs⟩

/-- An error that may be thrown is a safe computation. -/
lemma throw {e : ε} (h : P e) : Safe I P Q (throw e) := fun _ _ =>
  .error h

/-- A look at the state shows one that satisfies the invariant. -/
lemma get : Safe I P I get := fun _ hs =>
  .ok ⟨hs, hs⟩

/-- A change that keeps the invariant is a safe computation. -/
lemma modify {f : σ → σ} (h : ∀ s, I s → I (f s)) :
    Safe I P (fun _ => True) (modify f : StateT σ (Except ε) PUnit) := fun s hs =>
  .ok ⟨trivial, h s hs⟩

/-- Safe computations one after the other are safe. -/
lemma bind {x : StateT σ (Except ε) α} {f : α → StateT σ (Except ε) β} (h : Safe I P Q x)
    (rest : ∀ a, Q a → Safe I P R (f a)) : Safe I P R (x >>= f) := fun s hs =>
  (h s hs).bind fun (a, s) ⟨ha, hs⟩ => rest a ha s hs

end Safe

end WorkflowExpr
