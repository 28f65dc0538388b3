import WorkflowExpr.Proofs.Expr.Longest
import WorkflowExpr.Proofs.Expr.Reason

/-!
# Tilings

Scanning loses nothing of a text: what it has read is cut into tokens and spacing. The tokens stand in
the text one behind the other, each as long as any terminal allows, and there is spacing wherever no
token stands. It goes on as long as a terminal has a text at the place.
-/

namespace WorkflowExpr

open Lexeme

/-- A front part of a text is cut into spacing and tokens. What follows it counts for how far its tokens
reach. -/
inductive Cut (rest : List Char) : Nat → List Char → List Token → Prop where
  | nil {position} :
    Cut rest position [] []
  | space {position c cs ts} :
    isSpace c = true →
    Cut rest (position + 1) cs ts →
    Cut rest position (c :: cs) ts
  | token {position k chars cs ts} :
    first? (chars ++ (cs ++ rest)) = some (k, chars) →
    Cut rest (position + chars.length) cs ts →
    Cut rest position (chars ++ cs) (⟨k, chars, position⟩ :: ts)

namespace Cut

variable {rest front : List Char} {position : Nat} {ts us : List Token} {t : Token}

/-- A cut stays the same if spacing or nothing follows instead. -/
lemma ends {rest' : List Char} (h : Cut rest position front ts) (hr : Ends rest') :
    Cut rest' position front ts := by
  induction h with
  | nil => exact .nil
  | space space _ ih => exact .space space ih
  | token first _ ih => exact .token (first_cut first hr) ih

/-- A front that is cut into tokens is scanned into them. -/
lemma scans (h : Cut rest position front ts) : Scans position front ts rest := by
  induction h with
  | nil => rfl
  | @space position c cs ts space _ ih =>
    rw [Scans] at ih ⊢
    rw [List.cons_append, scanFrom_space space, ih, List.length_cons, Nat.add_assoc,
      Nat.add_comm 1]
  | token first _ ih => exact (Scans.first first).append ih

/-- What stands in front of a token is cut into the tokens before it. -/
lemma split (h : Cut rest position front (ts ++ t :: us)) :
    ∃ before behind, front = before ++ behind ∧ Cut (behind ++ rest) position before ts := by
  generalize e : ts ++ t :: us = all at h
  induction h generalizing ts with
  | nil => cases (List.append_ne_nil_of_right_ne_nil ts (List.cons_ne_nil t us)) e
  | @space position c cs _ space _ ih =>
    obtain ⟨before, behind, rfl, cut⟩ := ih e
    exact ⟨c :: before, behind, rfl, .space space cut⟩
  | @token position k chars cs _ first _ ih =>
    cases ts with
    | nil =>
      cases e
      exact ⟨[], chars ++ cs, rfl, .nil⟩
    | cons t' ts =>
      cases e
      obtain ⟨before, behind, rfl, cut⟩ := ih rfl
      rw [List.append_assoc] at first
      exact ⟨chars ++ before, behind, (List.append_assoc ..).symm, .token first cut⟩

/-- A part of a text that is cut into tokens starts with spacing or a firm character. -/
lemma head (h : Cut rest position front ts) :
    ∀ c ∈ front.head?, isSpace c = true ∨ Firm c := by
  cases h with
  | nil => nofun
  | space space =>
    rintro _ ⟨⟩
    exact .inl space
  | @token _ k chars cs _ first =>
    obtain ⟨c, ds, rfl⟩ := List.exists_cons_of_ne_nil (first_ne_nil first)
    rintro _ ⟨⟩
    rcases first_firm first with literal | firm
    · exact .inr (literal.head c rfl)
    · exact .inr (firm c (List.mem_cons_self ..))

/-- Each token of a cut is scanned as such by itself. -/
lemma first (h : Cut rest position front ts) :
    ∀ t ∈ ts, first? t.chars = some (t.terminal, t.chars) := by
  induction h with
  | nil => exact List.forall_mem_nil _
  | space _ _ ih => exact ih
  | @token position k chars cs ts first _ ih =>
    have alone := first_ends first .nil
    rw [List.append_nil] at alone
    exact List.forall_mem_cons.2 ⟨alone, ih⟩

end Cut

/-- Whatever scanning has read is cut into the scanned tokens. -/
lemma exists_cut (position : Nat) (cs : List Char) :
    ∃ front, cs = front ++ (scanFrom position cs).stuck.getD [] ∧
      Cut ((scanFrom position cs).stuck.getD []) position front (scanFrom position cs).tokens := by
  fun_induction scanFrom position cs with
  | case1 => exact ⟨[], rfl, .nil⟩
  | case2 position c rest space ih =>
    obtain ⟨front, e, cut⟩ := ih
    exact ⟨c :: front, congrArg (c :: ·) e, .space space cut⟩
  | case3 => exact ⟨[], rfl, .nil⟩
  | case4 position c rest _ k chars hf scan ih =>
    obtain ⟨front, e, cut⟩ := ih
    have whole : c :: rest = chars ++ (front ++ scan.stuck.getD []) := by
      have start := first_prefix hf
      rw [← e, List.prefix_iff_eq_append.1 start]
    refine ⟨chars ++ front, ?_, .token ?_ cut⟩
    · rw [List.append_assoc]
      exact whole
    · rw [whole] at hf
      exact hf

/-- Scanning is stuck where no token starts and no spacing stands. -/
lemma stuck_eq_some {position : Nat} {cs rest : List Char}
    (h : (scanFrom position cs).stuck = some rest) :
    ∃ c ds, rest = c :: ds ∧ isSpace c = false ∧ first? rest = none := by
  fun_induction scanFrom position cs with
  | case1 => cases h
  | case2 _ _ _ _ ih => exact ih h
  | case3 position c ds space none =>
    cases h
    exact ⟨c, ds, rfl, Bool.eq_false_iff.2 space, none⟩
  | case4 _ _ _ _ _ _ _ _ ih => exact ih h

/-- The number of characters up to the end of a token. -/
def ListedToken.stop (t : ListedToken) : Nat :=
  t.position + t.text.length

/-- A token stands in a text where it says, and no terminal has a longer text there. -/
structure ListedToken.Stands (source : List Char) (t : ListedToken) : Prop where
  nonempty : 0 < t.text.length
  slice : (source.drop t.position).take t.text.length = t.text.toList
  terminal : ∃ k, t.Is k ∧ k.Matches t.text.toList
  longest : ∀ k l, Terminal.Matches k l → l <+: source.drop t.position → l.length ≤ t.text.length

/-- Tokens and the spacing between them make up a part of a text. -/
structure Tiling (source : List Char) (start stop : Nat) (ts : List ListedToken) : Prop where
  stands : ∀ t ∈ ts, t.Stands source
  within : ∀ t ∈ ts, start ≤ t.position ∧ t.stop ≤ stop
  increasing : ts.Pairwise fun t u => t.position < u.position
  apart : ts.Pairwise fun t u => t.stop ≤ u.position
  gaps : ∀ i, start ≤ i → i < stop → (∀ t ∈ ts, i < t.position ∨ t.stop ≤ i) →
    ∃ c, source[i]? = some c ∧ isSpace c = true

namespace Tiling

variable {source : List Char} {start stop : Nat} {ts : List ListedToken}

/-- No tokens make up an empty part. -/
lemma nil : Tiling source start start [] where
  stands := List.forall_mem_nil _
  within := List.forall_mem_nil _
  increasing := .nil
  apart := .nil
  gaps _ low high _ := absurd high (Nat.not_lt.2 low)

/-- A space in front lengthens a tiling. -/
lemma space {c : Char} (hc : source[start]? = some c) (hs : isSpace c = true)
    (h : Tiling source (start + 1) stop ts) : Tiling source start stop ts where
  stands := h.stands
  within t ht := ⟨Nat.le_of_succ_le (h.within t ht).1, (h.within t ht).2⟩
  increasing := h.increasing
  apart := h.apart
  gaps i low high free := by
    rcases Nat.eq_or_lt_of_le low with rfl | low
    · exact ⟨c, hc, hs⟩
    · exact h.gaps i low high free

/-- A token in front lengthens a tiling. -/
lemma token {t : ListedToken} (ht : t.Stands source) (inside : t.stop ≤ stop)
    (h : Tiling source t.stop stop ts) : Tiling source t.position stop (t :: ts) where
  stands := List.forall_mem_cons.2 ⟨ht, h.stands⟩
  within := by
    refine List.forall_mem_cons.2 ⟨⟨Nat.le_refl _, inside⟩, fun u hu => ?_⟩
    exact ⟨Nat.le_trans (Nat.le_add_right ..) (h.within u hu).1, (h.within u hu).2⟩
  increasing := by
    refine List.pairwise_cons.2 ⟨fun u hu => ?_, h.increasing⟩
    exact Nat.lt_of_lt_of_le (Nat.lt_add_of_pos_right ht.nonempty) (h.within u hu).1
  apart := List.pairwise_cons.2 ⟨fun u hu => (h.within u hu).1, h.apart⟩
  gaps i low high free := by
    rcases List.forall_mem_cons.1 free with ⟨before | behind, free⟩
    · exact absurd before (Nat.not_lt.2 low)
    · exact h.gaps i behind high free

end Tiling

/-- A scanned token stands where it was scanned. -/
lemma stands_first {source chars rest : List Char} {k : Terminal} {position : Nat}
    (hs : source.drop position = chars ++ rest) (hf : first? (chars ++ rest) = some (k, chars)) :
    (Token.mk k chars position).listed.Stands source where
  nonempty := by
    rw [Token.text_listed, Token.text, String.length_ofList]
    exact List.length_pos_iff.2 (first_ne_nil hf)
  slice := by
    simp only [Token.listed, Token.text, String.length_ofList, String.toList_ofList, hs,
      List.take_left]
  terminal := ⟨k, Token.spelt_first position hf, by
    rw [Token.text_listed, Token.text, String.toList_ofList]
    exact matches_first hf⟩
  longest k' l h front := by
    rw [Token.text_listed, Token.text, String.length_ofList]
    rw [Token.listed, hs] at front
    exact first_longest hf h front

/-- The tokens of a cut, as they are listed, make up the front that is cut. -/
lemma Cut.tiling {source front rest : List Char} {position : Nat} {ts : List Token}
    (h : Cut rest position front ts) (hs : source.drop position = front ++ rest) :
    Tiling source position (position + front.length) (ts.map Token.listed) := by
  induction h with
  | nil => exact .nil
  | @space position c cs ts space _ ih =>
    have here : source[position]? = some c := by
      rw [← List.head?_drop, hs, List.cons_append, List.head?_cons]
    have behind : source.drop (position + 1) = cs ++ rest := by
      rw [← List.drop_drop, hs]
      rfl
    rw [List.length_cons, Nat.add_comm cs.length, ← Nat.add_assoc]
    exact .space here space (ih behind)
  | @token position k chars cs ts first _ ih =>
    have behind : source.drop (position + chars.length) = cs ++ rest := by
      rw [← List.drop_drop, hs, List.append_assoc, List.drop_left]
    have stop : (Token.mk k chars position).listed.stop = position + chars.length := by
      rw [ListedToken.stop, Token.text_listed, Token.text, String.length_ofList, Token.listed]
    rw [List.append_assoc] at hs
    rw [List.length_append, ← Nat.add_assoc]
    refine .token (stands_first hs first) ?_ ?_
    · rw [stop]
      exact Nat.le_add_right ..
    · rw [stop]
      exact ih behind

/-- The scanned tokens make up what is in front of the place where scanning is stuck, or the whole
text. -/
lemma scan_tiling (source : List Char) :
    Tiling source 0 (source.length - ((scan source).stuck.getD []).length)
      ((scan source).tokens.map Token.listed) := by
  obtain ⟨front, whole, cut⟩ := exists_cut 0 source
  have tiles := cut.tiling whole
  have length := congrArg List.length whole
  rw [List.length_append] at length
  rw [Nat.zero_add] at tiles
  rwa [scan, length, Nat.add_sub_cancel_right]

/-- What is left where scanning is stuck stands at the end of the text. -/
lemma drop_stuck {source rest : List Char} (h : (scan source).stuck = some rest) :
    source.drop (source.length - rest.length) = rest := by
  obtain ⟨front, whole, -⟩ := exists_cut 0 source
  rw [scan] at h
  rw [h, Option.getD_some] at whole
  rw [whole, List.length_append, Nat.add_sub_cancel_right, List.drop_left]

/-- A text that does not start with a blank and is scanned to its end holds a token, unless it is empty. -/
lemma tokens_ne_nil {source : List Char} (head : ∀ c ∈ source.head?, Text.isBlank c = false)
    (stuck : (scan source).stuck = none) (nonempty : source ≠ []) :
    (scan source).tokens.map Token.listed ≠ [] := by
  intro unlisted
  have none := List.map_eq_nil_iff.1 unlisted
  obtain ⟨front, whole, cut⟩ := exists_cut 0 source
  rw [← scan, stuck] at whole cut
  obtain rfl : source = front := whole.trans (List.append_nil front)
  rw [none] at cut
  cases cut with
  | nil => exact nonempty rfl
  | space space => cases (Lexeme.isBlank_space space).symm.trans (head _ rfl)

/-- Tokenizing a text gives tokens that make up the whole of it. Where it fails, tokens make up what
stands in front of the place, and no terminal has a text there. -/
theorem tokenize_tiles (text : String) :
    let source := (unwrap text.toList).1
    match tokenize text with
    | .ok listing =>
      ∃ ts, listing = ts ++ [⟨.eof, "", source.length⟩] ∧ Tiling source 0 source.length ts
    | .error fault =>
      fault.expression = String.ofList source ∧
      (∃ ts, Tiling source 0 fault.position ts) ∧
      (∃ c, source[fault.position]? = some c ∧ isSpace c = false) ∧
      (∀ k l, Terminal.Matches k l → ¬ l <+: source.drop fault.position) ∧
      (fault.reason.text = "Unterminated string literal" ↔
        ∃ q, source[fault.position]? = some q ∧ isQuote q = true) := by
  intro source
  have tiles := scan_tiling source
  cases h : tokenize text with
  | ok listing =>
    obtain ⟨stuck, rfl⟩ := tokenize_eq_ok_iff.1 h
    rw [stuck] at tiles
    exact ⟨_, rfl, tiles⟩
  | error fault =>
    obtain ⟨rest, stuck, rfl⟩ := tokenize_eq_error_iff.1 h
    rw [stuck] at tiles
    have left := drop_stuck stuck
    obtain ⟨c, ds, rfl, noSpace, none⟩ := stuck_eq_some stuck
    have head : source[source.length - (c :: ds).length]? = some c := by
      rw [← List.head?_drop, left, List.head?_cons]
    refine ⟨rfl, ⟨_, tiles⟩, ⟨c, head, noSpace⟩, ?_, ?_⟩
    · dsimp only
      rw [left]
      exact fun k l hl => first_none none hl
    · dsimp only
      rw [head]
      exact stuckReason_text_iff (c :: ds)

end WorkflowExpr
