import WorkflowExpr.Proofs.Yaml.Misfit
import WorkflowExpr.Yaml.Layout

/-!
# Faults of the text

While a text is cut into tokens, the only misfits are an escape whose code is no character and a version
with too many digits. Whatever else is wrong with the text makes it malformed.
-/

namespace WorkflowExpr.Yaml

/-- The misfits that a text can have before anything is known of its nodes. -/
inductive Misfit.OfText : Misfit → Prop where
  | character :
    OfText .character
  | wideCharacter :
    OfText .wideCharacter
  | digits {count} :
    digitLimit < count →
    OfText (.digits count)

/-- A fault of the text itself. -/
abbrev Fault.OfText : Fault → Prop :=
  Fault.Of Misfit.OfText

/-- A token is sound unless it is a fault that no text has. -/
def Token.Sound : Token → Prop
  | .broken fault => fault.OfText
  | _ => True

/-- If something cannot be read, the text is at fault. -/
abbrev Scans {α : Type} (x : Except Fault α) : Prop :=
  Yields (fun _ => True) Fault.OfText x

namespace Scans

variable {α β : Type}

/-- What is there blames nothing. -/
lemma ok (a : α) : Scans (.ok a) :=
  Yields.ok trivial

/-- A malformed text is at fault itself. -/
lemma malformed : Scans (.error .malformed : Except Fault α) :=
  Yields.error .malformed

/-- A scan is followed by a step that blames the text alone. -/
lemma andThen {R : β → Prop} {x : Except Fault α} {f : α → Except Fault β} (h : Scans x)
    (rest : ∀ a, Yields R Fault.OfText (f a)) : Yields R Fault.OfText (x >>= f) :=
  Yields.bind h fun a _ => rest a

/-- Scans follow one another. -/
lemma bind {x : Except Fault α} {f : α → Except Fault β} (h : Scans x) (rest : ∀ a, Scans (f a)) :
    Scans (x >>= f) :=
  h.andThen rest

end Scans

/-- The end of a line is scanned, or the text is at fault. -/
lemma scans_endLine (c : Cursor) : Scans c.endLine := by
  unfold Cursor.endLine
  dsimp only
  split
  · exact .ok _
  · exact .malformed

/-! ## Properties and directives -/

/-- The name of an anchor is scanned, or the text is at fault. -/
lemma scans_anchorName (c : Cursor) : Scans (anchorName c) := by
  unfold anchorName
  dsimp only
  split
  · exact .ok _
  · exact .malformed

/-- Coded bytes are scanned, or the text is at fault. -/
lemma scans_codedBytes (fuel : Nat) (cs : List Char) : Scans (codedBytes fuel cs) := by
  fun_induction codedBytes fuel cs with
  | case2 _ _ _ _ _ ih => exact ih.bind fun _ => .ok _
  | case3 => exact .malformed
  | case4 => exact .malformed
  | _ => exact .ok _

/-- A tag with codes in it is decoded, or the text is at fault. -/
lemma scans_decodedTag (fuel : Nat) (cs : List Char) : Scans (decodedTag fuel cs) := by
  fun_induction decodedTag fuel cs with
  | case3 _ _ ih =>
    apply (scans_codedBytes ..).bind
    rintro ⟨bytes, rest⟩
    dsimp only
    split
    · exact (ih rest).bind fun _ => .ok _
    · exact .malformed
  | case4 _ _ _ _ ih => exact ih.bind fun _ => .ok _
  | _ => exact .ok _

/-- The text of a tag is scanned, or the text is at fault. -/
lemma scans_tagText (c : Cursor) : Scans (tagText c) := by
  unfold tagText
  dsimp only
  split
  · exact .malformed
  · exact (scans_decodedTag ..).bind fun _ => .ok _

/-- The handle of a tag is scanned, or the text is at fault. -/
lemma scans_tagHandle (c : Cursor) : Scans (tagHandle c) := by
  unfold tagHandle
  dsimp only
  split
  · exact .malformed
  · split
    · exact .ok _
    · split
      · exact .ok _
      · exact .malformed

/-- A tag is scanned, or the text is at fault. -/
lemma scans_tag (c : Cursor) : Scans (tag c) := by
  have ends (written : WrittenTag) (behind : Cursor) : Scans
      (if isSpaceOrEnd behind.first then .ok (written, behind) else .error .malformed) := by
    split
    · exact .ok _
    · exact .malformed
  unfold tag
  dsimp only
  split
  · apply (scans_tagText _).bind
    intro _
    split
    · exact ends _ _
    · exact .malformed
  · split
    · exact ends _ _
    · split
      · apply (scans_tagHandle _).bind
        intro _
        exact (scans_tagText _).bind fun _ => ends _ _
      · exact (scans_tagText _).bind fun _ => ends _ _

/-- A number of a version is scanned, or the text is at fault. -/
lemma scans_versionNumber (c : Cursor) : Scans (versionNumber c) := by
  unfold versionNumber
  dsimp only
  split
  · exact .malformed
  · split
    · next many => exact .error (.misfit (.digits many))
    · exact .ok _

/-- The value of a directive is a sound token, or the text is at fault. -/
lemma sound_directiveValue (name : List Char) (c : Cursor) :
    Yields (fun said => said.1.Sound) Fault.OfText (directiveValue name c) := by
  unfold directiveValue
  split
  · apply (scans_versionNumber _).andThen
    intro _
    dsimp only
    split
    · exact .error .malformed
    · apply (scans_versionNumber _).andThen
      intro _
      split
      · exact .ok trivial
      · exact .error .malformed
  · split
    · apply (scans_tagHandle _).andThen
      intro _
      dsimp only
      split
      · exact .error .malformed
      · apply (scans_tagText _).andThen
        intro _
        split
        · exact .ok trivial
        · exact .error .malformed
    · exact .ok trivial

/-- A directive is a sound token, or the text is at fault. -/
lemma sound_directive (c : Cursor) :
    Yields (fun said => said.1.Sound) Fault.OfText (directive c) := by
  unfold directive
  dsimp only
  split
  · exact .error .malformed
  · apply (sound_directiveValue _ _).bind
    intro _ said
    exact (scans_endLine _).andThen fun _ => .ok said

/-! ## Scalars -/

/-- A coded escape is scanned, or the text is at fault. -/
lemma scans_codeEscape (width : Nat) (c : Cursor) : Scans (codeEscape width c) := by
  unfold codeEscape
  dsimp only
  split
  · exact .malformed
  · split
    · exact .error (.misfit .wideCharacter)
    · split
      · exact .error (.misfit .character)
      · exact .ok _

/-- Empty lines are scanned, or the text is at fault. -/
lemma scans_emptyLines (fuel : Nat) (c : Cursor) : Scans (emptyLines fuel c) := by
  fun_induction emptyLines fuel c with
  | case2 => exact .malformed
  | case4 _ _ _ _ _ _ _ ih => exact ih.bind fun _ => .ok _
  | _ => exact .ok _

/-- By induction on the pieces of the text: each is one character, an escape, or the blanks and line ends
between two words. -/
lemma scans_quotedFrom (isDouble : Bool) (fuel : Nat) (c : Cursor) :
    Scans (quotedFrom isDouble fuel c) := by
  induction fuel generalizing c with
  | zero => exact .malformed
  | succ fuel ih =>
    -- Each branch puts some text in front of what the rest of the quoted text gives.
    have more (text : List Char) (c : Cursor) : Scans (do
        let found ← quotedFrom isDouble fuel c
        return (text ++ found.1, found.2)) :=
      (ih c).bind fun _ => .ok _
    unfold quotedFrom
    split
    · exact more _ _
    · split
      · split
        · exact more _ _
        · exact .ok _
      · split
        · exact .ok _
        · split
          · dsimp only
            split
            · exact more _ _
            · exact (scans_codeEscape _ _).bind fun _ => more _ _
            · split
              · exact (scans_emptyLines _ _).bind fun _ => more _ _
              · exact .malformed
          · split
            · exact more _ _
            · dsimp only
              split
              · exact .malformed
              · split
                · exact more _ _
                · exact (scans_emptyLines _ _).bind fun _ => more _ _

/-- A quoted text is scanned, or the text is at fault. -/
lemma scans_quoted (c : Cursor) : Scans (quoted c) :=
  scans_quotedFrom ..

/-- The digit of an indentation is scanned, or the text is at fault. -/
lemma scans_indentDigit (c : Cursor) : Scans (indentDigit? c) := by
  unfold indentDigit?
  split
  · exact .malformed
  · split
    · exact .ok _
    · exact .ok _

/-- The header of a block is scanned, or the text is at fault. -/
lemma scans_blockHeader (c : Cursor) : Scans (blockHeader c) := by
  have ends (header : BlockHeader) (c : Cursor) : Scans
      (if isSpaceOrEnd c.first then do return (header, ← c.endLine) else .error .malformed) := by
    split
    · exact (scans_endLine c).bind fun _ => .ok _
    · exact .malformed
  unfold blockHeader
  dsimp only
  split
  · exact (scans_indentDigit _).bind fun _ => ends _ _
  · apply (scans_indentDigit _).bind
    intro _
    split
    · exact ends _ _
    · exact ends _ _

/-- A block of text is scanned, or the text is at fault. -/
lemma scans_block (least : Nat) (c : Cursor) : Scans (block least c) := by
  apply (scans_blockHeader _).bind
  intro _
  dsimp only
  split
  · split
    · exact .ok _
    · exact .ok _
  · split
    · exact .ok _
    · exact .ok _

/-! ## Tokens -/

namespace Layout

/-- The tokens of a layout are sound. -/
def Sound (l : Layout) : Prop :=
  ∀ t ∈ l.tokens, t.Sound

variable {l : Layout}

/-- A sound token may be put behind a sound layout. -/
lemma Sound.push (h : l.Sound) (t : Token) (ht : t.Sound) : (l.push t).Sound :=
  List.forall_mem_cons.2 ⟨ht, h⟩

/-- A sound token may be put at a place in a sound layout. -/
lemma Sound.pushAt (h : l.Sound) (t : Token) (ht : t.Sound) (number : Nat) : (l.pushAt number t).Sound := by
  intro u hu
  rcases List.mem_append.1 hu with hu | hu
  · exact h u (List.mem_of_mem_take hu)
  · rcases List.mem_cons.1 hu with rfl | hu
    · exact ht
    · exact h u (List.mem_of_mem_drop hu)

/-- A block may be opened in a sound layout. -/
lemma Sound.openBlock (h : l.Sound) (t : Token) (ht : t.Sound) (column number : Nat) :
    (l.openBlock column number t).Sound := by
  unfold Layout.openBlock
  split
  · exact h.pushAt t ht number
  · exact h

/-- Closing blocks keeps a layout sound. -/
lemma Sound.closeBlocks (h : l.Sound) (column : Nat) (columns : List Nat) :
    (closeBlocks column columns l).Sound := by
  fun_induction Layout.closeBlocks column columns l with
  | case1 => exact h
  | case2 _ _ _ _ ih => exact ih (h.push _ trivial)
  | case3 => exact h

/-- Closing the blocks farther in keeps a layout sound. -/
lemma Sound.close (h : l.Sound) (column : Nat) : (l.close column).Sound := by
  unfold Layout.close
  split
  · exact h
  · exact h.closeBlocks _ _

/-- Skipping a gap keeps a layout sound. -/
lemma Sound.skipGap (h : l.Sound) (fuel : Nat) : (l.skipGap fuel).Sound := by
  fun_induction Layout.skipGap fuel l with
  | case3 _ _ _ _ _ _ ih => exact ih h
  | _ => exact h

/-- A step to a sound layout, if it is one. -/
abbrev Goes (x : Except Fault Layout) : Prop :=
  Yields Sound Fault.OfText x

/-- Possible keys are forgotten, or one of them was needed. -/
lemma Sound.forget (h : l.Sound) (p : Nat → PossibleKey → Bool) : Goes (l.forget p) := by
  unfold Layout.forget
  split
  · exact .error .malformed
  · exact .ok h

/-- Keys that can no longer come are forgotten. -/
lemma Sound.forgetStale (h : l.Sound) : Goes l.forgetStale :=
  h.forget _

/-- The possible key at the current depth is forgotten. -/
lemma Sound.forgetCurrent (h : l.Sound) : Goes l.forgetCurrent :=
  h.forget _

/-- A possible key is noted. -/
lemma Sound.noteKey (h : l.Sound) : Goes l.noteKey := by
  unfold Layout.noteKey
  split
  · apply h.forgetCurrent.bind
    intro _ h
    exact .ok h
  · exact .ok h

/-- A mark between documents, or a directive, keeps a layout sound. -/
lemma Sound.outer (h : l.Sound) (t : Token) (ht : t.Sound) (c : Cursor) : Goes (l.outer t c) := by
  apply (h.close 0).forgetCurrent.bind
  intro _ h
  exact .ok (h.push _ ht)

/-- A bracket that opens keeps a layout sound. -/
lemma Sound.openFlow (h : l.Sound) (t : Token) (ht : t.Sound) : Goes (l.openFlow t) := by
  apply h.noteKey.bind
  intro _ h
  exact .ok (h.push _ ht)

/-- A bracket that closes keeps a layout sound. -/
lemma Sound.closeFlow (h : l.Sound) (t : Token) (ht : t.Sound) : Goes (l.closeFlow t) := by
  apply h.forgetCurrent.bind
  intro _ h
  exact .ok (h.push _ ht)

/-- A comma keeps a layout sound. -/
lemma Sound.flowEntry (h : l.Sound) : Goes l.flowEntry := by
  apply h.forgetCurrent.bind
  intro _ h
  exact .ok (h.push _ trivial)

/-- The sign of an entry, of a key or of a value, which may open a block. -/
lemma Sound.sign (h : l.Sound) (b t : Token) (hb : b.Sound) (ht : t.Sound)
    (allowsKey : Layout → Bool) : Goes (do
      if !l.inFlow ∧ !l.allowsKey then .error .malformed
      let l := if l.inFlow then l else l.openBlock l.cursor.column l.count b
      let l ← l.forgetCurrent
      return { l.pushTo t l.cursor.step with allowsKey := allowsKey l }) := by
  dsimp only
  split
  · exact .error .malformed
  · have opened : (if l.inFlow then l else l.openBlock l.cursor.column l.count b).Sound := by
      split
      · exact h
      · exact h.openBlock b hb _ _
    apply opened.forgetCurrent.bind
    intro _ h
    exact .ok (h.push _ ht)

/-- The sign of a value keeps a layout sound. -/
lemma Sound.valueSign (h : l.Sound) : Goes l.valueSign := by
  unfold Layout.valueSign
  split
  · next key _ =>
    have keyed : Layout.Sound ({ l with keys := l.keys.filter fun entry => entry.1 != l.depth }.pushAt
        key.number .key) :=
      Sound.pushAt h .key trivial _
    dsimp only
    split
    · exact .ok (keyed.push _ trivial)
    · exact .ok ((keyed.openBlock .blockMapping trivial _ _).push _ trivial)
  · exact h.sign .blockMapping .value trivial trivial fun l => !l.inFlow

/-- A token of a node keeps a layout sound. -/
lemma Sound.node (h : l.Sound) (t : Token) (ht : t.Sound) (c : Cursor) : Goes (l.node t c) := by
  apply h.noteKey.bind
  intro _ h
  exact .ok (h.push _ ht)

/-- A plain scalar keeps a layout sound. -/
lemma Sound.plainNode (h : l.Sound) : Goes l.plainNode := by
  apply h.noteKey.bind
  intro _ h
  exact .ok (h.push _ trivial)

/-- A block scalar keeps a layout sound. -/
lemma Sound.blockNode (h : l.Sound) : Goes l.blockNode := by
  apply h.forgetCurrent.bind
  intro l h
  apply (scans_block _ _).andThen
  intro _
  exact .ok (h.push _ trivial)

/-- Every sign and every scalar leads to a sound layout. -/
lemma Sound.next (h : l.Sound) : Goes l.next := by
  -- The signs are tried one after the other; where none of them stands, a scalar may start.
  apply Yields.ite
  · apply (sound_directive _).bind
    intro _ said
    exact h.outer _ said _
  apply Yields.ite
  · exact h.outer .documentStart trivial _
  apply Yields.ite
  · exact h.outer .documentEnd trivial _
  apply Yields.ite
  · exact h.openFlow _ trivial
  apply Yields.ite
  · exact h.openFlow _ trivial
  apply Yields.ite
  · exact h.closeFlow _ trivial
  apply Yields.ite
  · exact h.closeFlow _ trivial
  apply Yields.ite
  · exact h.flowEntry
  apply Yields.ite
  · exact h.sign .blockSequence .blockEntry trivial trivial fun _ => true
  apply Yields.ite
  · exact h.sign .blockMapping .key trivial trivial fun l => !l.inFlow
  apply Yields.ite
  · exact h.valueSign
  apply Yields.ite
  · exact (scans_anchorName _).andThen fun _ => h.node (.alias _) trivial _
  apply Yields.ite
  · exact (scans_anchorName _).andThen fun _ => h.node (.anchor _) trivial _
  apply Yields.ite
  · exact (scans_tag _).andThen fun _ => h.node (.tag _) trivial _
  apply Yields.ite
  · exact h.blockNode
  apply Yields.ite
  · exact (scans_quoted _).andThen fun _ => h.node (.scalar _ _) trivial _
  apply Yields.ite
  · exact h.plainNode
  · exact .error .malformed

/-- The tokens of a sound layout with a fault of the text behind them are sound. -/
lemma Sound.broken (h : l.Sound) {fault : Fault} (hf : fault.OfText) :
    ∀ t ∈ l.broken fault, t.Sound :=
  List.forall_mem_cons.2 ⟨hf, fun t ht => h t (List.mem_of_mem_drop ht)⟩

/-- By induction on the tokens that are left, with what was pushed so far as the invariant. -/
lemma Sound.finish (h : l.Sound) (fuel : Nat) : ∀ t ∈ l.finish fuel, t.Sound := by
  induction fuel generalizing l with
  | zero => exact h
  | succ fuel ih =>
    unfold Layout.finish
    have gap := (h.skipGap (fuel + 1)).forgetStale
    generalize (l.skipGap (fuel + 1)).forgetStale = x at gap
    cases gap with
    | error hf => exact h.broken hf
    | @ok further hfurther =>
      dsimp only
      split
      · have closed : Goes (further.close 0).forgetCurrent := Sound.forgetCurrent (hfurther.close 0)
        generalize (further.close 0).forgetCurrent = x at closed
        cases closed with
        | error hf => exact h.broken hf
        | ok hdone => exact hdone
      · have longer : Goes (further.close (further.cursor.column + 1)).next :=
          Sound.next (hfurther.close _)
        generalize (further.close (further.cursor.column + 1)).next = x at longer
        cases longer with
        | error hf => exact h.broken hf
        | ok hlonger => exact ih hlonger

end Layout

/-- Tokens are signs and scalars, and then at most a fault that a text can have. -/
theorem sound_tokens (cs : List Char) : ∀ t ∈ tokens cs, t.Sound := by
  intro t ht
  have start : (Layout.start cs).Sound := List.forall_mem_nil _
  exact start.finish _ t (List.mem_reverse.1 ht)

end WorkflowExpr.Yaml
