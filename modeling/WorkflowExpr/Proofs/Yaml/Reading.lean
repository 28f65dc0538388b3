import WorkflowExpr.Proofs.Yaml.Scanning
import WorkflowExpr.Yaml.Node

/-!
# Faults of the graph

Nodes are read from tokens, and nothing that is found wrong there is a misfit: whatever misfit shows
before the graph of a text is complete is one of the text itself.
-/

namespace WorkflowExpr.Yaml

/-- The tokens that are left to be read are sound. -/
def Reading.Sound (r : Reading) : Prop :=
  ∀ t ∈ r.tokens, t.Sound

namespace Reader

/-- If something cannot be read, the text is at fault. -/
abbrev Reads {α : Type} (x : Reader α) : Prop :=
  Safe Reading.Sound Fault.OfText (fun _ => True) x

namespace Reads

variable {α β : Type}

/-- A value is read from nothing. -/
lemma pure (a : α) : Reads (Pure.pure a) :=
  Safe.pure trivial

/-- A refusal calls the document malformed. -/
lemma refuse : Reads (refuse : Reader α) :=
  Safe.throw .malformed

/-- Nothing is read behind a refusal. -/
lemma refuse_bind (f : α → Reader β) : Reads (Reader.refuse >>= f) := fun _ _ =>
  Yields.error .malformed

/-- Readings follow one another. -/
lemma bind {x : Reader α} {f : α → Reader β} (h : Reads x) (rest : ∀ a, Reads (f a)) :
    Reads (x >>= f) :=
  Safe.bind h fun a _ => rest a

/-- A look at the state reads nothing. -/
lemma get : Reads get :=
  fun _ hr => .ok ⟨trivial, hr⟩

/-- A token that is a fault is one of the text. -/
lemma peek : Reads peek := by
  apply Safe.bind Safe.get
  intro r hr
  split
  · next fault next => exact Safe.throw (hr _ (List.mem_of_head? next))
  · exact Safe.pure trivial

/-- The next token is dropped. -/
lemma drop : Reads drop :=
  Safe.modify fun _ hr t ht => hr t (List.mem_of_mem_tail ht)

/-! ## Properties -/

/-- The reading of an anchor blames the text alone. -/
lemma anchor : Reads anchor := by
  apply peek.bind
  intro _
  split
  · exact drop.bind fun _ => .pure _
  · exact .pure _

/-- The reading of a tag blames the text alone. -/
lemma tag : Reads tag := by
  apply peek.bind
  intro _
  split
  · exact drop.bind fun _ => .pure _
  · exact .pure _

/-- The lookup of a handle blames the text alone. -/
lemma textOfTag (written? : Option WrittenTag) : Reads (textOfTag written?) := by
  unfold Reader.textOfTag
  split
  · exact .pure _
  · exact .pure _
  · apply get.bind
    intro _
    split
    · exact .pure _
    · exact .refuse

/-- The reading of anchor and tag blames the text alone. -/
lemma properties : Reads properties := by
  apply anchor.bind
  intro _
  split
  · apply tag.bind
    intro _
    exact (textOfTag _).bind fun _ => .pure _
  · apply tag.bind
    intro _
    split
    · exact .pure _
    · apply anchor.bind
      intro _
      exact (textOfTag _).bind fun _ => .pure _

/-! ## Nodes -/

/-- A node is added without a fault. -/
lemma add (n : Node) : Reads (add n) := fun _ hr =>
  .ok ⟨trivial, hr⟩

/-- A node is entered under its anchor, or that anchor is there already. -/
lemma enter (given : Properties) (n : Node) : Reads (enter given n) := by
  unfold Reader.enter
  split
  · exact add n
  · apply get.bind
    intro r
    dsimp only
    split
    · exact refuse_bind _
    · apply (add n).bind
      intro _
      apply Reads.bind
      · exact Safe.modify fun _ hr => hr
      · exact fun _ => .pure _

/-- A node is replaced without a fault. -/
lemma replace (number : Nat) (n : Node) : Reads (replace number n) :=
  Safe.modify fun _ hr => hr

/-- A sequence is read when its items are. -/
lemma sequence (given : Properties) {items : Reader (List Nat)} (h : Reads items) :
    Reads (sequence given items) := by
  apply (enter given _).bind
  intro _
  apply h.bind
  intro _
  exact (replace _ _).bind fun _ => .pure _

/-- A mapping is read when its pairs are. -/
lemma mapping (given : Properties) {pairs : Reader (List (Nat × Nat))} (h : Reads pairs) :
    Reads (mapping given pairs) := by
  apply (enter given _).bind
  intro _
  apply h.bind
  intro _
  exact (replace _ _).bind fun _ => .pure _

/-- An empty node is read from nothing. -/
lemma emptyNode (given : Properties) : Reads (emptyNode given) := by
  unfold Reader.emptyNode
  split
  · exact refuse
  · exact enter given _

/-- What follows the comma between two entries in brackets; none stands before the first one. -/
lemma comma {isFirst : Bool} {next : Option Token} {rest : Unit → Reader α} (h : Reads (rest ())) :
    Reads (if !isFirst then
        match next with
        | some .flowEntry => do rest (← Reader.drop)
        | _ => do rest (← Reader.refuse)
      else rest ()) := by
  split
  · split
    · exact drop.bind fun _ => h
    · exact refuse_bind _
  · exact h

-- The recursion is that of the reader, on the nesting that is left; the tokens only get fewer.
mutual

/-- The reading of a node blames the text alone. -/
theorem node : (fuel : Nat) → (place : Place) → Reads (node fuel place)
  | 0, _ => refuse
  | fuel + 1, place => by
    unfold Reader.node
    apply peek.bind
    intro _
    dsimp only
    split
    · apply drop.bind
      intro _
      apply get.bind
      intro _
      split
      · exact .pure _
      · exact refuse_bind _
    · apply properties.bind
      intro given
      apply peek.bind
      intro _
      split
      · exact drop.bind fun _ => enter given _
      · exact sequence given (drop.bind fun _ => flowItems fuel true)
      · exact mapping given (drop.bind fun _ => flowPairs fuel true)
      · split
        · exact emptyNode given
        · exact sequence given (drop.bind fun _ => blockItems fuel)
      · split
        · exact emptyNode given
        · exact mapping given (drop.bind fun _ => blockPairs fuel)
      · split
        · exact sequence given (innerItems fuel)
        · exact emptyNode given
      · exact emptyNode given

/-- The reading of a node that may be missing blames the text alone. -/
theorem nodeOr : (fuel : Nat) → (place : Place) → (ends : Token → Bool) → Reads (nodeOr fuel place ends)
  | 0, _, _ => refuse
  | fuel + 1, place, ends => by
    unfold Reader.nodeOr
    apply peek.bind
    intro _
    split
    · exact add _
    · exact node fuel place

/-- The reading of items in a block blames the text alone. -/
theorem blockItems : (fuel : Nat) → Reads (blockItems fuel)
  | 0 => refuse
  | fuel + 1 => by
    unfold Reader.blockItems
    apply peek.bind
    intro _
    split
    · apply drop.bind
      intro _
      apply (nodeOr fuel _ _).bind
      intro _
      exact (blockItems fuel).bind fun _ => .pure _
    · exact drop.bind fun _ => .pure _
    · exact refuse

/-- The reading of items at the indentation of their key blames the text alone. -/
theorem innerItems : (fuel : Nat) → Reads (innerItems fuel)
  | 0 => refuse
  | fuel + 1 => by
    unfold Reader.innerItems
    apply peek.bind
    intro _
    split
    · apply drop.bind
      intro _
      apply (nodeOr fuel _ _).bind
      intro _
      exact (innerItems fuel).bind fun _ => .pure _
    · exact .pure _

/-- The reading of a value that may be missing blames the text alone. -/
theorem valueOr : (fuel : Nat) → (place : Place) → (ends : Token → Bool) → Reads (valueOr fuel place ends)
  | 0, _, _ => refuse
  | fuel + 1, place, ends => by
    unfold Reader.valueOr
    apply peek.bind
    intro _
    split
    · exact drop.bind fun _ => nodeOr fuel place ends
    · exact add _

/-- The reading of pairs in a block blames the text alone. -/
theorem blockPairs : (fuel : Nat) → Reads (blockPairs fuel)
  | 0 => refuse
  | fuel + 1 => by
    unfold Reader.blockPairs
    apply peek.bind
    intro _
    split
    · apply drop.bind
      intro _
      apply (nodeOr fuel _ _).bind
      intro _
      apply (valueOr fuel _ _).bind
      intro _
      exact (blockPairs fuel).bind fun _ => .pure _
    · exact drop.bind fun _ => .pure _
    · exact refuse

/-- The reading of items in brackets blames the text alone. -/
theorem flowItems : (fuel : Nat) → (isFirst : Bool) → Reads (flowItems fuel isFirst)
  | 0, _ => refuse
  | fuel + 1, isFirst => by
    unfold Reader.flowItems
    apply peek.bind
    intro _
    split
    · exact drop.bind fun _ => .pure _
    · apply comma
      apply peek.bind
      intro _
      split
      · exact drop.bind fun _ => .pure _
      · apply Reads.bind
        · apply mapping
          apply drop.bind
          intro _
          apply (nodeOr fuel _ _).bind
          intro _
          apply (valueOr fuel _ _).bind
          intro _
          exact peek.bind fun _ => .pure _
        · intro _
          exact (flowItems fuel false).bind fun _ => .pure _
      · apply (node fuel _).bind
        intro _
        exact (flowItems fuel false).bind fun _ => .pure _

/-- The reading of pairs in braces blames the text alone. -/
theorem flowPairs : (fuel : Nat) → (isFirst : Bool) → Reads (flowPairs fuel isFirst)
  | 0, _ => refuse
  | fuel + 1, isFirst => by
    unfold Reader.flowPairs
    apply peek.bind
    intro _
    split
    · exact drop.bind fun _ => .pure _
    · apply comma
      apply peek.bind
      intro _
      split
      · exact drop.bind fun _ => .pure _
      · apply drop.bind
        intro _
        apply (nodeOr fuel _ _).bind
        intro _
        apply (valueOr fuel _ _).bind
        intro _
        exact (flowPairs fuel false).bind fun _ => .pure _
      · apply (node fuel _).bind
        intro _
        apply peek.bind
        intro _
        apply (add _).bind
        intro _
        exact (flowPairs fuel false).bind fun _ => .pure _

end

/-! ## Documents -/

/-- The reading of directives blames the text alone. -/
lemma directives (fuel : Nat) (hasVersion : Bool) (handles : List (String × String)) :
    Reads (directives fuel hasVersion handles) := by
  induction fuel generalizing hasVersion handles with
  | zero => exact refuse
  | succ fuel ih =>
    unfold Reader.directives
    apply peek.bind
    intro _
    split
    · apply drop.bind
      intro _
      dsimp only
      split
      · exact refuse_bind _
      · exact ih _ _
    · apply drop.bind
      intro _
      dsimp only
      split
      · exact refuse_bind _
      · exact ih _ _
    · exact drop.bind fun _ => ih _ _
    · exact .pure _

/-- The reading of directives and the mark behind them blames the text alone. -/
lemma preamble (fuel : Nat) : Reads (preamble fuel) := by
  apply (directives fuel _ _).bind
  intro _
  apply peek.bind
  intro _
  split
  · apply drop.bind
    intro _
    exact Safe.modify fun _ hr => hr
  · exact refuse

/-- The marks at the end of a document are dropped. -/
lemma dropEnds (fuel : Nat) : Reads (dropEnds fuel) := by
  induction fuel with
  | zero => exact refuse
  | succ fuel ih =>
    unfold Reader.dropEnds
    apply peek.bind
    intro _
    split
    · exact drop.bind fun _ => ih
    · exact .pure _

/-- The reading of a node behind a mark blames the text alone. -/
lemma markedNode (fuel : Nat) : Reads (markedNode fuel) := by
  apply peek.bind
  intro _
  split
  · exact add _
  · split
    · exact add _
    · exact node fuel _

/-- The reading of a document blames the text alone. -/
lemma document (fuel : Nat) : Reads (document fuel) := by
  have ends (root : Nat) : Reads (do
      Reader.dropEnds fuel
      if (← Reader.peek).isSome then do
        Reader.preamble fuel
        Reader.refuse
      return some root) := by
    apply (dropEnds fuel).bind
    intro _
    apply peek.bind
    intro _
    dsimp only
    split
    · exact (preamble fuel).bind fun _ => refuse_bind _
    · exact .pure _
  apply peek.bind
  intro _
  split
  · exact .pure _
  · dsimp only
    split
    · apply (preamble fuel).bind
      intro _
      exact (markedNode fuel).bind ends
    · exact (node fuel _).bind ends

end Reads

end Reader

/-- The graph of a text is read, or the text is at fault. -/
lemma Graph.scans_ofChars (cs : List Char) : Scans (ofChars? cs) := by
  have start : Reading.Sound ⟨tokens cs, [], Reader.standardHandles, #[]⟩ := sound_tokens cs
  apply Yields.bind (Reader.Reads.document _ _ start)
  intro _ _
  exact .ok trivial

/-- A text without a graph is malformed, or has a misfit in the text itself. -/
theorem Graph.scans_ofText (text : String) : Scans (ofText? text) := by
  unfold ofText?
  dsimp only
  split
  · exact scans_ofChars _
  · next index _ =>
    split
    · exact .malformed
    · have front := scans_ofChars
        ((joinLineEnds text.toList).take (index - (index - firstPiece) % laterPiece))
      split
      · next misfit =>
        rw [misfit] at front
        cases front with
        | error h => exact .error h
      · exact .malformed

end WorkflowExpr.Yaml
