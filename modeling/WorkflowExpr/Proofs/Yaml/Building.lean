import WorkflowExpr.Proofs.Yaml.Fitting
import Mathlib.Logic.Relation

/-!
# Contents of a whole graph

Building goes from the outermost node to every node that it holds, level by level. So when it comes to an
end, no scalar that the document holds has a misfit; and when it fails, the document is malformed or some
node has one.
-/

namespace WorkflowExpr.Yaml

namespace Nodes

/-- A node is the key or the value of a pair in another one, and the pair is no merge. -/
inductive InPair (nodes : Nodes) (number other : Nat) : Prop where
  | intro {key value} :
    (key, value) ∈ nodes.pairs number →
    nodes.tag key ≠ .merge →
    other = key ∨ other = value →
    InPair nodes number other

/-- A collection holds a node. -/
inductive Holds (nodes : Nodes) (number other : Nat) : Prop where
  | item {items} :
    nodes.node number = .sequence .sequence items →
    other ∈ items →
    Holds nodes number other
  | member :
    nodes.tag number = .mapping ∨ nodes.tag number = .set →
    nodes.InPair number other →
    Holds nodes number other
  | pair {items item} :
    nodes.node number = .sequence .pairs items →
    item ∈ items →
    nodes.InPair item other →
    Holds nodes number other

/-- What holds a node is a collection. -/
lemma Holds.isCollection {nodes : Nodes} {number other : Nat} (h : nodes.Holds number other) :
    (nodes.tag number).isCollection = true := by
  cases h with
  | item here =>
    unfold Nodes.tag
    rw [here]
    rfl
  | member here =>
    rcases here with here | here
    · rw [here]
      rfl
    · rw [here]
      rfl
  | pair here =>
    unfold Nodes.tag
    rw [here]
    rfl

section Kinds

variable {before nodes : Nodes} {number other : Nat}

/-- What a mapping holds at first is in a pair that it still has. -/
lemma Holds.of_mapping {t : Tag} {pairs : List (Nat × Nat)} (h : before.Becomes nodes)
    (here : nodes.node number = .mapping t pairs) (holds : before.Holds number other) :
    before.InPair number other := by
  obtain ⟨u, others, hu, -⟩ := (here ▸ h number).mapping_inv
  cases holds with
  | item sequence => cases hu.symm.trans sequence
  | member _ inPair => exact inPair
  | pair sequence => cases hu.symm.trans sequence

/-- What a sequence holds at first is one of its items. -/
lemma Holds.of_sequence {items : List Nat} (h : before.Becomes nodes)
    (here : nodes.node number = .sequence .sequence items) (holds : before.Holds number other) :
    ∃ item ∈ items, other = item := by
  obtain ⟨u, hu, tag⟩ := (here ▸ h number).sequence_inv
  cases tag
  cases holds with
  | item sequence ho =>
    cases hu.symm.trans sequence
    exact ⟨other, ho, rfl⟩
  | member mapping =>
    unfold Nodes.tag at mapping
    rw [hu] at mapping
    rcases mapping with mapping | mapping <;> cases mapping
  | pair sequence => cases hu.symm.trans sequence

/-- What a list of pairs holds at first is in a pair of one of its items. -/
lemma Holds.of_pairs {items : List Nat} (h : before.Becomes nodes)
    (here : nodes.node number = .sequence .pairs items) (holds : before.Holds number other) :
    ∃ item ∈ items, before.InPair item other := by
  obtain ⟨u, hu, tag⟩ := (here ▸ h number).sequence_inv
  cases tag
  cases holds with
  | item sequence => cases hu.symm.trans sequence
  | member mapping =>
    unfold Nodes.tag at mapping
    rw [hu] at mapping
    rcases mapping with mapping | mapping <;> cases mapping
  | pair sequence hi inPair =>
    cases hu.symm.trans sequence
    exact ⟨_, hi, inPair⟩

end Kinds

end Nodes

namespace Building

/-- What a node stands for is known. -/
def Known (b : Building) (number : Nat) : Prop :=
  number < b.parts.size → b.parts.getD number none ≠ none

/-- The number of nodes of which it is not known what they stand for. -/
def unknown (b : Building) : Nat :=
  b.parts.countP Option.isNone

/-- How far a document is built: what is known fits, and what a known collection holds is known unless the
collection waits or is one of those that are being filled. -/
structure Covers (before : Nodes) (filling : Nat → Prop) (b : Building) : Prop where
  becomes : before.Becomes b.nodes
  size : b.parts.size = before.size
  fits : ∀ number, b.Known number → before.FitsAt number
  filled : ∀ number, b.Known number → (before.tag number).isCollection = true →
    number ∈ b.waiting ∨ filling number ∨ ∀ other, before.Holds number other → b.Known other

/-- More is known than before, or nothing waits that did not. -/
structure Grows (b c : Building) : Prop where
  known : ∀ number, b.Known number → c.Known number
  waiting : c.unknown < b.unknown ∨ c.unknown = b.unknown ∧ c.waiting = b.waiting

/-- A state grows into itself. -/
lemma Grows.refl (b : Building) : b.Grows b :=
  ⟨fun _ h => h, .inr ⟨rfl, rfl⟩⟩

/-- Growth is transitive. -/
lemma Grows.trans {b c d : Building} (h : b.Grows c) (h' : c.Grows d) : b.Grows d := by
  constructor
  · exact fun number known => h'.known number (h.known number known)
  · rcases h.waiting with less | ⟨same, waits⟩
    · rcases h'.waiting with less' | ⟨same', -⟩
      · exact .inl (Nat.lt_trans less' less)
      · exact .inl (same' ▸ less)
    · rw [← same, ← waits]
      exact h'.waiting

/-- What one more node stands for is known. -/
def learn (b : Building) (number : Nat) (p : Part) : Building :=
  { b with parts := b.parts.setIfInBounds number (some p) }

/-- A collection is known and waits to be filled. -/
def await (b : Building) (number : Nat) : Building :=
  { b.learn number (.collection number) with waiting := number :: b.waiting }

section Learn

variable {before : Nodes} {filling : Nat → Prop} {b : Building} {number : Nat} {p : Part}

/-- After one more node is learnt, that node and what was known before are known. -/
lemma known_learn {other : Nat} : (b.learn number p).Known other ↔ other = number ∨ b.Known other := by
  unfold Known learn
  rw [getD_setIfInBounds, Array.size_setIfInBounds]
  by_cases here : other = number
  · subst here
    simp +contextual
  · simp [here]

/-- A node that is learnt is no longer unknown. -/
lemma unknown_learn (within : number < b.parts.size) (new : b.parts.getD number none = none) :
    (b.learn number p).unknown < b.unknown := by
  have none : b.parts[number] = none := by simpa [within] using new
  have positive : 0 < b.unknown :=
    Array.countP_pos_iff.2 ⟨b.parts[number], Array.getElem_mem within, by simp [none]⟩
  unfold unknown learn at *
  rw [Array.setIfInBounds, dif_pos within, Array.countP_set]
  simp only [none, Option.isNone_none, Option.isNone_some, if_true, Bool.false_eq_true, if_false]
  omega

/-- To learn a new node is to grow. -/
lemma grows_learn (new : b.parts.getD number none = none) : b.Grows (b.learn number p) := by
  by_cases within : number < b.parts.size
  · exact ⟨fun _ known => known_learn.2 (.inr known), .inl (unknown_learn within new)⟩
  · unfold learn
    rw [Array.setIfInBounds, dif_neg within]
    exact .refl b

/-- A node that fits and is no collection can be learnt. -/
lemma Covers.learn (h : b.Covers before filling) (fits : before.FitsAt number)
    (scalar : (before.tag number).isCollection = false) : (b.learn number p).Covers before filling := by
  constructor
  · exact h.becomes
  · exact (Array.size_setIfInBounds ..).trans h.size
  · intro other known
    rcases known_learn.1 known with rfl | known
    · exact fits
    · exact h.fits other known
  · intro other known collection
    rcases known_learn.1 known with rfl | known
    · rw [scalar] at collection
      cases collection
    · rcases h.filled other known collection with waits | fills | done
      · exact .inl waits
      · exact .inr (.inl fills)
      · exact .inr (.inr fun held holds => known_learn.2 (.inr (done held holds)))

/-- A collection has a place among the parts. -/
lemma Covers.within (h : b.Covers before filling) (collection : (before.tag number).isCollection = true) :
    number < b.parts.size := by
  rw [h.size]
  apply Nat.lt_of_not_le
  intro beyond
  unfold Nodes.tag at collection
  rw [Nodes.node_beyond beyond] at collection
  cases collection

/-- To let a new collection wait is to grow. -/
lemma Covers.grows_await (h : b.Covers before filling)
    (collection : (before.tag number).isCollection = true) (new : b.parts.getD number none = none) :
    b.Grows (b.await number) :=
  ⟨fun _ known => known_learn.2 (.inr known), .inl (unknown_learn (h.within collection) new)⟩

/-- A collection that waits may be known without what it holds. -/
lemma Covers.await (h : b.Covers before filling)
    (collection : (before.tag number).isCollection = true) : (b.await number).Covers before filling := by
  constructor
  · exact h.becomes
  · exact (Array.size_setIfInBounds ..).trans h.size
  · intro other known
    rcases known_learn.1 known with rfl | known
    · exact Nodes.fitsAt_collection collection
    · exact h.fits other known
  · intro other known _
    rcases known_learn.1 known with rfl | known
    · exact .inl (List.mem_cons_self ..)
    · rcases h.filled other known ‹_› with waits | fills | done
      · exact .inl (List.mem_cons_of_mem _ waits)
      · exact .inr (.inl fills)
      · exact .inr (.inr fun held holds => known_learn.2 (.inr (done held holds)))

end Learn

end Building

namespace Builder

/-- From one state of building, a further one is reached in which more is known, certain nodes among it;
or the document is malformed, or some node of it has a misfit. -/
def BuildsFrom (before : Nodes) (filling : Nat → Prop) (b : Building) {α : Type} (x : Builder α)
    (found : Nat → Prop) : Prop :=
  Yields (fun (_, c) => c.Covers before filling ∧ b.Grows c ∧ ∀ number, found number → c.Known number)
    (Fault.Of fun cause => ∃ number, before.MisfitAt number cause) (x b)

section Builds

variable {before : Nodes} {filling : Nat → Prop} {b c : Building} {α β : Type} {found found' : Nat → Prop}

namespace BuildsFrom

/-- What is known already is built. -/
lemma pure {a : α} (hb : b.Covers before filling) (known : ∀ number, found number → b.Known number) :
    BuildsFrom before filling b (Pure.pure a) found :=
  .ok ⟨hb, .refl b, known⟩

/-- A malformed document ends the building. -/
lemma malformed : BuildsFrom before filling b (throw .malformed : Builder α) found :=
  .error .malformed

/-- Steps of building follow one another from state to state. -/
lemma bind {x : Builder α} {f : α → Builder β} (h : BuildsFrom before filling b x found)
    (rest : ∀ a c, c.Covers before filling → b.Grows c → (∀ number, found number → c.Known number) →
      BuildsFrom before filling c (f a) found') : BuildsFrom before filling b (x >>= f) found' := by
  apply Yields.bind h
  rintro ⟨a, c⟩ ⟨hc, grows, known⟩
  apply (rest a c hc grows known).imp
  rintro ⟨a', d⟩ ⟨hd, grows', known'⟩
  exact ⟨hd, grows.trans grows', known'⟩

/-- A look at the state is a step of building. -/
lemma get {f : Building → Builder α} (h : BuildsFrom before filling b (f b) found) :
    BuildsFrom before filling b (get >>= f) found :=
  h

/-- A change to a grown state is a step of building. -/
lemma set {f : PUnit → Builder α} (grows : b.Grows c)
    (h : BuildsFrom before filling c (f ⟨⟩) found) :
    BuildsFrom before filling b (set c >>= f) found := by
  apply Yields.imp h
  rintro ⟨a, d⟩ ⟨hd, grows', known⟩
  exact ⟨hd, grows.trans grows', known⟩

/-- A reading that ends with misfits of nodes alone is a step of building. -/
lemma lift {Q : β → Prop} {x : Except Fault β} {f : β → Builder α}
    (h : Yields Q (Fault.Of fun cause => ∃ number, before.MisfitAt number cause) x)
    (rest : ∀ a, Q a → BuildsFrom before filling b (f a) found) :
    BuildsFrom before filling b (liftM x >>= f) found := by
  cases h with
  | ok h => exact rest _ h
  | error h => exact .error h

/-- What a node stands for is known when it is needed. -/
lemma part (hb : b.Covers before filling) (number : Nat) :
    BuildsFrom before filling b (part number) (· = number) := by
  have isCollection := (hb.becomes.tag number).isCollection
  apply BuildsFrom.get
  split
  · next p known =>
    apply BuildsFrom.pure hb
    rintro _ rfl _
    rw [known]
    nofun
  · next new =>
    dsimp only
    split
    · next collection =>
      rw [← isCollection] at collection
      apply BuildsFrom.set (hb.grows_await collection new)
      apply BuildsFrom.pure (hb.await collection)
      rintro _ rfl
      exact Building.known_learn.2 (.inl rfl)
    · next scalar =>
      rw [← isCollection, Bool.not_eq_true] at scalar
      apply BuildsFrom.lift ((hb.becomes.scalarKey number).error_imp fun _ h =>
        h.mono fun _ misfit => ⟨number, misfit⟩)
      intro key fits
      apply BuildsFrom.set (Building.grows_learn new)
      apply BuildsFrom.pure (hb.learn fits scalar)
      rintro _ rfl
      exact Building.known_learn.2 (.inl rfl)

/-- The members of a collection are built. -/
lemma members (hb : b.Covers before filling) (pairs : List (Nat × Nat)) :
    BuildsFrom before filling b (members pairs)
      (fun number => ∃ pair ∈ pairs, number = pair.1 ∨ number = pair.2) := by
  induction pairs generalizing b with
  | nil => exact BuildsFrom.pure hb nofun
  | cons pair pairs ih =>
    unfold Builder.members
    apply (part hb pair.1).bind
    intro _ c hc _ key
    split
    · exact BuildsFrom.malformed
    · apply (part hc pair.2).bind
      intro _ d hd grows value
      apply (ih hd).bind
      intro _ e he grows' others
      apply BuildsFrom.pure he
      rintro number ⟨other, hp, either⟩
      rcases List.mem_cons.1 hp with rfl | hp
      · apply grows'.known
        rcases either with rfl | rfl
        · exact grows.known _ (key _ rfl)
        · exact value _ rfl
      · exact others number ⟨other, hp, either⟩

/-- Building for each member of a list finds all that it finds for one of them. -/
lemma mapM {f : α → Builder β} {found : α → Nat → Prop}
    (h : ∀ b, b.Covers before filling → ∀ x, BuildsFrom before filling b (f x) (found x))
    (hb : b.Covers before filling) (xs : List α) :
    BuildsFrom before filling b (xs.mapM f) (fun number => ∃ x ∈ xs, found x number) := by
  induction xs generalizing b with
  | nil => exact BuildsFrom.pure hb nofun
  | cons x xs ih =>
    rw [List.mapM_cons]
    apply (h b hb x).bind
    intro _ c hc _ first
    apply (ih hc).bind
    intro _ d hd grows others
    apply BuildsFrom.pure hd
    rintro number ⟨y, hy, holds⟩
    rcases List.mem_cons.1 hy with rfl | hy
    · exact grows.known number (first number holds)
    · exact others number ⟨y, hy, holds⟩

/-- The pairs of a mapping are all there, whatever was merged into it. -/
lemma mappingMembers (hb : b.Covers before filling) (number : Nat) :
    BuildsFrom before filling b (mappingMembers number) (before.InPair number) := by
  apply BuildsFrom.get
  split
  · next mapping =>
    apply BuildsFrom.get
    apply BuildsFrom.lift (hb.becomes.flattened (hb.becomes.isMapping mapping))
    intro nodes becomes
    have covers : Building.Covers before filling { b with nodes := nodes } :=
      ⟨becomes, hb.size, hb.fits, hb.filled⟩
    apply BuildsFrom.set
    · exact ⟨fun _ known => known, .inr ⟨rfl, rfl⟩⟩
    · apply BuildsFrom.get
      apply (members covers _).bind
      intro _ c hc _ known
      apply BuildsFrom.pure hc
      rintro other ⟨hp, merges, either⟩
      exact known other ⟨_, becomes.kept _ hp merges, either⟩
  · exact BuildsFrom.malformed

/-- The pair of an item is built. -/
lemma pair (hb : b.Covers before filling) (number : Nat) :
    BuildsFrom before filling b (pair number) (before.InPair number) := by
  apply BuildsFrom.get
  split
  · next t key value mapping =>
    apply (part hb key).bind
    intro _ c hc _ first
    apply (part hc value).bind
    intro _ d hd grows second
    apply BuildsFrom.pure hd
    rintro other ⟨hp, merges, either⟩
    have only := hb.becomes.kept _ hp merges
    rw [Nodes.pairs_mapping mapping, List.mem_singleton] at only
    cases only
    rcases either with rfl | rfl
    · exact grows.known _ (first _ rfl)
    · exact second _ rfl
  · exact BuildsFrom.malformed

/-- All that a collection holds is known when its content is. -/
lemma content (hb : b.Covers before filling) (number : Nat) :
    BuildsFrom before filling b (content number) (before.Holds number) := by
  apply BuildsFrom.get
  split
  · next mapping =>
    apply (mappingMembers hb number).bind
    intro _ c hc _ known
    exact BuildsFrom.pure hc fun other holds => known other (holds.of_mapping hb.becomes mapping)
  · next mapping =>
    apply (mappingMembers hb number).bind
    intro _ c hc _ known
    exact BuildsFrom.pure hc fun other holds => known other (holds.of_mapping hb.becomes mapping)
  · next sequence =>
    apply (mapM (fun _ hb => part hb) hb _).bind
    intro _ c hc _ known
    exact BuildsFrom.pure hc fun other holds => known other (holds.of_sequence hb.becomes sequence)
  · next sequence =>
    apply (mapM (fun _ hb => pair hb) hb _).bind
    intro _ c hc _ known
    exact BuildsFrom.pure hc fun other holds => known other (holds.of_pairs hb.becomes sequence)
  · exact BuildsFrom.malformed

/-- What a collection holds is built when it is filled. -/
lemma fill (hb : b.Covers before filling) (number : Nat) :
    BuildsFrom before filling b (fill number) (before.Holds number) := by
  apply (content hb number).bind
  intro _ c hc _ known
  exact .ok ⟨⟨hc.becomes, hc.size, hc.fits, hc.filled⟩, ⟨fun _ known => known, .inr ⟨rfl, rfl⟩⟩, known⟩

/-- What each element asks for is built. -/
lemma forM {f : α → Builder PUnit} {found : α → Nat → Prop}
    (h : ∀ b, b.Covers before filling → ∀ x, BuildsFrom before filling b (f x) (found x))
    (hb : b.Covers before filling) (xs : List α) :
    BuildsFrom before filling b (xs.forM f) (fun number => ∃ x ∈ xs, found x number) := by
  induction xs generalizing b with
  | nil => exact BuildsFrom.pure hb nofun
  | cons x xs ih =>
    apply (h b hb x).bind
    intro _ c hc _ first
    apply Yields.imp (ih hc)
    rintro ⟨_, d⟩ ⟨hd, grows, others⟩
    refine ⟨hd, grows, ?_⟩
    rintro number ⟨y, hy, holds⟩
    rcases List.mem_cons.1 hy with rfl | hy
    · exact grows.known number (first number holds)
    · exact others number ⟨y, hy, holds⟩

end BuildsFrom

end Builds

/-- One level of waiting collections is filled at a time, those first that have waited longest. -/
lemma fillAll_level {b : Building} (fuel : Nat) (waits : b.waiting ≠ []) :
    fillAll (fuel + 1) b =
      (b.waiting.reverse.forM fill >>= fun _ => fillAll fuel) { b with waiting := [] } := by
  obtain ⟨nodes, parts, waiting, filled⟩ := b
  cases waiting with
  | nil => exact absurd rfl waits
  | cons => rfl

/-- Filling leaves nothing that waits: at each level, what waits afterwards was not known before. The
induction is on the levels that are left. -/
lemma fillAll_covers {before : Nodes} {b : Building} {fuel : Nat}
    (hb : b.Covers before fun _ => False) (enough : b.waiting = [] ∨ b.unknown < fuel) :
    Yields
      (fun (_, c) => c.Covers before (fun _ => False) ∧ c.waiting = [] ∧
        ∀ number, b.Known number → c.Known number)
      (Fault.Of fun cause => ∃ number, before.MisfitAt number cause) (fillAll fuel b) := by
  induction fuel generalizing b with
  | zero => exact .ok ⟨hb, enough.resolve_right (Nat.not_lt_zero _), fun _ known => known⟩
  | succ fuel ih =>
    by_cases waits : b.waiting = []
    · have done : fillAll (fuel + 1) b = .ok (⟨⟩, b) := by
        obtain ⟨nodes, parts, waiting, filled⟩ := b
        cases waits
        rfl
      rw [done]
      exact .ok ⟨hb, waits, fun _ known => known⟩
    · have few : b.unknown ≤ fuel := Nat.le_of_lt_succ (enough.resolve_left waits)
      -- What waited is filled on this level, and nothing waits when it starts.
      have covers : Building.Covers before (· ∈ b.waiting) { b with waiting := [] } := by
        refine ⟨hb.becomes, hb.size, hb.fits, fun number known collection => ?_⟩
        rcases hb.filled number known collection with waiting | ⟨⟨⟩⟩ | done
        · exact .inr (.inl waiting)
        · exact .inr (.inr done)
      rw [fillAll_level fuel waits]
      apply Yields.bind (BuildsFrom.forM (fun _ hb => .fill hb) covers b.waiting.reverse)
      rintro ⟨_, c⟩ ⟨hc, grows, held⟩
      have covers : c.Covers before fun _ => False := by
        refine ⟨hc.becomes, hc.size, hc.fits, fun number known collection => ?_⟩
        rcases hc.filled number known collection with waiting | filling | done
        · exact .inl waiting
        · exact .inr (.inr fun other holds => held other ⟨number, List.mem_reverse.2 filling, holds⟩)
        · exact .inr (.inr done)
      -- Something waits now only if it was unknown before, so the levels that are left suffice.
      have enough : c.waiting = [] ∨ c.unknown < fuel := by
        rcases grows.waiting with less | ⟨-, same⟩
        · exact .inr (Nat.lt_of_lt_of_le less few)
        · exact .inl same
      apply (ih covers enough).imp
      rintro ⟨_, d⟩ ⟨hd, nothing, known⟩
      exact ⟨hd, nothing, fun number h => known number (grows.known number h)⟩

end Builder

/-- Where nothing waits, all that a known node holds is known, at any depth. -/
lemma Building.Covers.reaches {before : Nodes} {b : Building} {root number : Nat}
    (h : b.Covers before fun _ => False) (done : b.waiting = []) (known : b.Known root)
    (reached : Relation.ReflTransGen before.Holds root number) : b.Known number := by
  induction reached with
  | refl => exact known
  | tail _ holds ih =>
    rcases h.filled _ ih holds.isCollection with waits | ⟨⟨⟩⟩ | held
    · rw [done] at waits
      cases waits
    · exact held _ holds

namespace Graph

/-- The state in which nothing of a graph is built. -/
def unbuilt (g : Graph) : Building :=
  ⟨g.nodes, .replicate g.nodes.size none, [], []⟩

/-- Where nothing is built, all that is known is covered. -/
lemma unbuilt_covers (g : Graph) : g.unbuilt.Covers g.nodes fun _ => False := by
  have beyond {number : Nat} (known : g.unbuilt.Known number) : g.nodes.size ≤ number := by
    apply Nat.le_of_not_lt
    intro within
    apply known
    · exact (Array.size_replicate ..).symm ▸ within
    · simp [unbuilt, within]
  constructor
  · exact .refl _
  · exact Array.size_replicate ..
  · exact fun number known => Nodes.fitsAt_beyond (beyond known)
  · intro number known collection
    unfold Nodes.tag at collection
    rw [Nodes.node_beyond (beyond known)] at collection
    cases collection

/-- Building a graph shows that every scalar that it holds fits, or that some node has a misfit, or that
the document is malformed. -/
theorem build_fits (g : Graph) :
    Yields
      (fun _ => ∀ number, Relation.ReflTransGen (Nodes.Holds g.nodes) g.root number →
        Nodes.FitsAt g.nodes number)
      (Fault.Of fun cause => ∃ number, Nodes.MisfitAt g.nodes number cause)
      (StateT.run (do
        let root ← Builder.part g.root
        Builder.fillAll (g.nodes.size + 1)
        return root) g.unbuilt) := by
  apply Yields.bind (Builder.BuildsFrom.part g.unbuilt_covers g.root)
  rintro ⟨part, b⟩ ⟨hb, -, root⟩
  have few : b.unknown < g.nodes.size + 1 :=
    Nat.lt_succ_of_le (hb.size ▸ Array.countP_le_size)
  apply Yields.bind (Builder.fillAll_covers hb (.inr few))
  rintro ⟨_, c⟩ ⟨hc, done, known⟩
  apply Yields.ok
  intro number reached
  exact hc.fits number (hc.reaches done (known _ (root _ rfl)) reached)

end Graph

end WorkflowExpr.Yaml
